import SheetExport.Proofs.Cancellation.Once

/-! # Callbacks that are taken back

To dispose of a registration takes its callback out of those that wait. It cannot take it from the caller who asked for
cancellation first once that caller has taken the callbacks that waited: such a callback runs in spite of it. What is
owed to a number, its callbacks that are about to run and its runs, is conserved from the disposal on, and since every
section takes away some of the weight of what is to be done, callers come to an end.
-/

namespace SheetExport.Cancellation

/-! ## Callers come to an end -/

theorem three_le_weight (c : Command) : 3 ≤ c.weight := by
  cases c <;> simp only [Command.weight] <;> omega

theorem sum_weight_commands (body : List Command) (callback : Option String) :
    ((body.map fun c => Task.command c callback).map Task.weight).sum = bodyWeight body := by
  induction body with
  | nil => rfl
  | cons c rest ih => simp only [List.map_cons, List.sum_cons, ih, Task.weight, bodyWeight]

theorem sum_weight_notes (c : Command) (callback : Option String) (answer : Answer) :
    ((notes c callback answer).map Task.weight).sum ≤ 1 := by
  cases callback with
  | none => exact Nat.zero_le 1
  | some => exact Nat.le_refl 1

theorem sum_weight_filter (p : Waiting → Bool) (waiting : List Waiting) :
    ((waiting.filter p).map Waiting.weight).sum ≤ (waiting.map Waiting.weight).sum := by
  induction waiting with
  | nil => exact Nat.le_refl 0
  | cons w rest ih =>
      rw [List.filter_cons]
      split <;> simp only [List.map_cons, List.sum_cons] <;> omega

namespace Registry

variable {s s' : Registry} {t : Task} {new : List Task}

/-- A section takes away some of the weight. -/
theorem Does.weight_lt (does : s.Does t s' new) : s'.weight new < t.weight + (s.waiting.map Waiting.weight).sum := by
  cases does with
  | win callback =>
      have noted := sum_weight_notes .cancel callback .done
      simp only [weight, List.map_cons, List.sum_cons, Task.weight, Command.weight]
      omega
  | join key body callback =>
      have noted := sum_weight_notes (.register key body) callback .done
      simp only [weight, List.map_append, List.map_cons, List.map_nil, List.sum_append, List.sum_cons, List.sum_nil,
        Task.weight, Command.weight, Waiting.weight]
      omega
  | late key body callback =>
      have noted := sum_weight_notes (.register key body) callback .done
      simp only [weight, List.map_cons, List.sum_cons, Task.weight, Command.weight, Waiting.weight]
      omega
  | nowhere key body callback =>
      have noted := sum_weight_notes (.registerNowhere key body) callback .done
      simp only [weight, List.map_cons, List.sum_cons, Task.weight, Command.weight]
      omega
  | withdraw key n callback =>
      have noted := sum_weight_notes (.dispose key) callback (.disposed true)
      have fewer := sum_weight_filter (fun w => w.registration != n) s.waiting
      simp only [weight, Task.weight, Command.weight]
      omega
  | nothing c callback answer =>
      have noted := sum_weight_notes c callback answer
      have enough := three_le_weight c
      simp only [weight, Task.weight]
      omega
  | drain => simp [weight, Task.weight, Function.comp_def]
  | run w =>
      simp only [weight, sum_weight_commands, record, Task.weight, Waiting.weight]
      omega
  | keep | note => simp [weight, Task.weight, record]

/-- A number was given, and nothing waits with it. -/
structure Taken (s : Registry) (n : Nat) : Prop where
  given : n < s.next
  nobody : ∀ w ∈ s.waiting, w.registration ≠ n

namespace Does

variable {n : Nat}

theorem kept (does : s.Does t s' new) {k : String × Nat} (inside : k ∈ s'.kept) : k ∈ s.kept ∨ t = .keep k.1 k.2 := by
  cases does with
  | withdraw => exact .inl (List.mem_filter.mp inside).1
  | keep key n =>
      rcases List.mem_cons.mp inside with rfl | before
      · exact .inr rfl
      · exact .inl (List.mem_filter.mp before).1
  | win | join | late | nowhere | nothing | drain | run | note => exact .inl inside

theorem taken (does : s.Does t s' new) (taken : s.Taken n) : s'.Taken n := by
  refine ⟨Nat.lt_of_lt_of_le taken.given does.next_le, ?_⟩
  cases does with
  | join key body callback =>
      intro w inside
      rcases List.mem_append.mp inside with before | last
      · exact taken.nobody w before
      · rw [List.mem_singleton.mp last]
        exact Nat.ne_of_gt taken.given
  | withdraw => exact fun w inside => taken.nobody w (List.mem_filter.mp inside).1
  | drain => exact List.forall_mem_nil _
  | win | late | nowhere | nothing | run | keep | note => exact taken.nobody

/-- What is owed to a number with which nothing waits is conserved. -/
theorem owed (does : s.Does t s' new) (taken : s.Taken n) :
    new.countP (Task.calls n) + s'.timesRun n = (if t.calls n then 1 else 0) + s.timesRun n := by
  have waits (u : Registry) (taken : u.Taken n) : u.waits n = 0 := by
    rw [Registry.waits, List.countP_eq_zero]
    intro w inside
    simp [taken.nobody w inside]
  have account := does.calls (n := n) (by rw [waits s taken]; exact Nat.zero_le 1)
  have registersNone : Section.registers n ⟨s, t⟩ = false := by
    simp only [Section.registers]
    split
    · exact beq_false_of_ne (Nat.ne_of_gt taken.given)
    · rfl
  have withdrawsNone : Section.withdraws n ⟨s, t⟩ = false := by
    simp only [Section.withdraws]
    split
    · have none_ : (s.waiting.any fun w => w.registration == n) = false := by simpa using taken.nobody
      rw [none_, Bool.and_false]
    · rfl
  simp only [registersNone, withdrawsNone, waits s taken, waits s' (does.taken taken), Bool.false_eq_true,
    if_false] at account
  omega

end Does

end Registry

namespace Machine

variable {m m' : Machine} {trace trace' : List Section} {n : Nat}

def weight (m : Machine) : Nat := m.registry.weight m.tasks

theorem exists_next (left : m.tasks ≠ []) :
    ∃ before t rest after, m.callers = before ++ (t :: rest) :: after := by
  obtain ⟨tasks, caller, busy⟩ := List.flatten_ne_nil_iff.mp left
  obtain ⟨before, after, parts⟩ := List.append_of_mem caller
  obtain ⟨t, rest, rfl⟩ := List.exists_cons_of_ne_nil busy
  exact ⟨before, t, rest, after, parts⟩

/-- Callers can come to their ends. -/
theorem Booked.finishes (booked : Booked trace m) : ∃ later m', m.Performs later m' ∧ m'.tasks = [] := by
  induction weight : m.weight using Nat.strongRecOn generalizing trace m with
  | ind k ih =>
    by_cases done : m.tasks = []
    · exact ⟨[], m, .nothing, done⟩
    · obtain ⟨before, t, rest, after, parts⟩ := exists_next done
      obtain ⟨s, callers⟩ := m
      obtain rfl : callers = _ := parts
      have does := Registry.does_advance booked.sides (booked.holds t first_mem_tasks)
      have less := does.weight_lt
      subst weight
      obtain ⟨later, m', performed, done⟩ := ih _ (by
        simp only [Machine.weight, Registry.weight, tasks, List.flatten_append, List.flatten_cons, List.map_append,
          List.map_cons, List.sum_append, List.sum_cons] at less ⊢
        omega) booked.more rfl
      exact ⟨_, m', (Performs.nothing.more).append performed, done⟩

/-- What is owed to a number: its callbacks that are about to run, and its runs. -/
def owed (m : Machine) (n : Nat) : Nat := m.tasks.countP (Task.calls n) + m.registry.timesRun n

theorem Performs.owed (performed : m.Performs trace m') (booked : Booked trace' m) (taken : m.registry.Taken n) :
    m'.registry.Taken n ∧ m'.owed n = m.owed n := by
  refine performed.keeps (P := fun m' => m'.registry.Taken n ∧ m'.owed n = m.owed n) booked ⟨taken, rfl⟩ ?_
  rintro trace s before t rest after booked ⟨taken, same⟩
  have does : s.Does t (s.advance t).1 (s.advance t).2 :=
    Registry.does_advance booked.sides (booked.holds t first_mem_tasks)
  refine ⟨does.taken taken, ?_⟩
  have counted := countP_tasks s before after t rest (Task.calls n)
  have conserved := does.owed taken
  rw [← same]
  simp only [Machine.owed]
  omega

/-- The numbers of the registrations that are kept have been given. -/
theorem Performs.kept (performed : m.Performs trace m') (booked : Booked trace' m)
    (given : ∀ k ∈ m.registry.kept, k.2 < m.registry.next) : ∀ k ∈ m'.registry.kept, k.2 < m'.registry.next := by
  refine performed.keeps (P := fun m => ∀ k ∈ m.registry.kept, k.2 < m.registry.next) booked given ?_
  intro trace s before t rest after booked given k inside
  have does : s.Does t (s.advance t).1 (s.advance t).2 :=
    Registry.does_advance booked.sides (booked.holds t first_mem_tasks)
  refine Nat.lt_of_lt_of_le ?_ does.next_le
  rcases does.kept inside with earlier | rfl
  · exact given k earlier
  · -- What is about to be handed out has a number.
    have handed := booked.keeps k.2
    have waits : 0 < (⟨s, before ++ (.keep k.1 k.2 :: rest) :: after⟩ : Machine).tasks.countP (Task.keeps k.2) :=
      List.countP_pos_iff.mpr ⟨_, first_mem_tasks, by simp [Task.keeps]⟩
    rw [booked.numbers] at handed
    split at handed
    · assumption
    · omega

/-- Somebody has taken the callback with a number back before it began to run, and the call has returned. -/
inductive DisposeReturned (m : Machine) (n : Nat) : Machine → Prop
  | intro {earlier : List Section} {s : Registry} {before after : List (List Task)} {rest : List Task} {key : String}
      {callback : Option String}
      (called : m.Performs earlier ⟨s, before ++ (.command (.dispose key) callback :: rest) :: after⟩)
      (kept : s.kept.lookup key = some n) (unrun : s.timesRun n = 0) :
      DisposeReturned m n ⟨(s.advance (.command (.dispose key) callback)).1,
        before ++ ((s.advance (.command (.dispose key) callback)).2 ++ rest) :: after⟩

/-- After a disposal nothing waits with the number, and only a callback that is about to run is owed to it. -/
theorem DisposeReturned.taken (returned : DisposeReturned m n m') (booked : Booked [] m)
    (given : ∀ k ∈ m.registry.kept, k.2 < m.registry.next) :
    (∃ trace, Booked trace m') ∧ m'.registry.Taken n ∧ m'.registry.timesRun n = 0 := by
  cases returned with
  | @intro earlier s before after rest key callback called kept unrun =>
      have performed : s.perform (.dispose key) = (.disposed true, { s with
          kept := s.kept.filter fun k => k.1 != key
          waiting := s.waiting.filter fun w => w.registration != n }, []) := by simp [Registry.perform, kept]
      have there : (key, n) ∈ s.kept := by
        obtain ⟨l, r, parts, -⟩ := List.lookup_eq_some_iff.mp kept
        rw [parts]
        exact List.mem_append_right _ List.mem_cons_self
      refine ⟨⟨_, (called.booked booked).more⟩, ?_, ?_⟩
      · rw [Registry.advance_command performed]
        exact ⟨called.kept booked given _ there, fun w inside => by simpa using (List.mem_filter.mp inside).2⟩
      · rw [Registry.advance_command performed]
        exact unrun

end Machine

open Machine in
/-- To dispose of a registration before its callback began to run keeps the callback from running exactly if nobody is
    about to run it, which is so as long as cancellation was not asked for: a callback that somebody has taken to run it
    has run once when all callers have come to their ends. -/
theorem disposed_never_runs_iff (programs : List (List Command))
    (holding : ∀ program ∈ programs, bodyHolds program = true) (n : Nat) (m : Machine)
    (returned : (start programs).DisposeReturned n m) :
    ((∀ later m', m.Performs later m' → m'.registry.timesRun n = 0) ↔ ∀ t ∈ m.tasks, t.calls n = false) ∧
      (m.registry.requested = false → ∀ later m', m.Performs later m' → m'.registry.timesRun n = 0) ∧
      ((∃ t ∈ m.tasks, t.calls n = true) →
        ∀ later m', m.Performs later m' → m'.tasks = [] → m'.registry.timesRun n = 1) := by
  obtain ⟨⟨trace, booked⟩, taken, unrun⟩ := returned.taken (.start holding) (List.forall_mem_nil _)
  have ran {later : List Section} {m' : Machine} (performed : m.Performs later m') :
      m'.tasks.countP (Task.calls n) + m'.registry.timesRun n = m.tasks.countP (Task.calls n) := by
    have same := (performed.owed booked taken).2
    rwa [owed, owed, unrun] at same
  have spared (nobody : ∀ t ∈ m.tasks, t.calls n = false) (later : List Section) (m' : Machine)
      (performed : m.Performs later m') : m'.registry.timesRun n = 0 := by
    have account := ran performed
    have nothing : m.tasks.countP (Task.calls n) = 0 := List.countP_eq_zero.mpr fun t inside => by simp [nobody t inside]
    omega
  have calls_le : m.tasks.countP (Task.calls n) ≤ 1 := by
    have account := booked.calls n
    have once := booked.registers_le n
    omega
  have ends (somebody : ∃ t ∈ m.tasks, t.calls n = true) (later : List Section) (m' : Machine)
      (performed : m.Performs later m') (done : m'.tasks = []) : m'.registry.timesRun n = 1 := by
    have account := ran performed
    have waits := List.countP_pos_iff.mpr somebody
    rw [done, List.countP_nil] at account
    omega
  refine ⟨⟨fun never t inside => ?_, spared⟩, fun unasked => spared fun t inside => ?_, ends⟩
  · refine Bool.eq_false_iff.mpr fun calls => ?_
    obtain ⟨later, m', performed, done⟩ := booked.finishes
    have once := ends ⟨t, inside, calls⟩ later m' performed done
    rw [never later m' performed] at once
    cases once
  · have idle := (booked.quiet unasked).1 t inside
    cases t with
    | run => cases idle
    | command | drain | keep | note => rfl

/-- The callback kept under a takes the one kept under b back, and both are registered when cancellation is asked for. -/
def disposingOther : Machine := .start [[.register "a" [.dispose "b"], .register "b" [], .cancel]]

namespace Machine

/-- The machine after the first callback has taken the second one back. -/
theorem disposeReturned_disposingOther : disposingOther.DisposeReturned 1 (disposingOther.follow (.replicate 8 0)).2 :=
  @DisposeReturned.intro disposingOther 1 _ _ [] [] [.run ⟨1, "b", []⟩] "b" (some "a")
    (disposingOther.performs_follow (.replicate 7 0)) rfl rfl

/-- The callback that was taken back runs in spite of it. -/
theorem disposed_callback_runs :
    ((disposingOther.follow (.replicate 8 0)).2.follow (.replicate 2 0)).2.registry.timesRun 1 = 1 :=
  (disposed_never_runs_iff [[.register "a" [.dispose "b"], .register "b" [], .cancel]] (by decide) 1 _
    disposeReturned_disposingOther).2.2 (by decide) _ _ (performs_follow _ _) rfl

/-- So it is not true that callbacks that were taken back before they began to run never run. -/
theorem not_disposed_never_runs :
    ¬ ∀ programs, (∀ program ∈ programs, bodyHolds program = true) → ∀ n m, (start programs).DisposeReturned n m →
      ∀ later m', m.Performs later m' → m'.registry.timesRun n = 0 := by
  intro never
  exact absurd (never _ (by decide) 1 _ disposeReturned_disposingOther _ _ (performs_follow _ (.replicate 2 0))) (by decide)

end Machine

end SheetExport.Cancellation
