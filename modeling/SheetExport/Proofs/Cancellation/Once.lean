import SheetExport.Proofs.Cancellation.Account

/-! # Every callback runs once

The caller who asks for cancellation first takes the callbacks that wait and runs them; whoever registers one later
runs it before the registration is handed out. So once the first call has returned, nothing waits any more, and what
is still about to run has not been handed out.
-/

namespace SheetExport.Cancellation

/-! ## Calm callers -/

/-- Tasks without any that drains, and whose callbacks were registered from a number on and are handed out later. -/
def Calm (k : Nat) : List Task → Prop
  | [] => True
  | .drain :: _ => False
  | .run w :: rest => (k ≤ w.registration ∧ ∃ key, .keep key w.registration ∈ rest) ∧ Calm k rest
  | _ :: rest => Calm k rest

variable {k : Nat} {s s' : Registry} {t : Task} {rest new : List Task}

namespace Calm

theorem tail (calm : Calm k (t :: rest)) : Calm k rest := by
  cases t with
  | drain => exact calm.elim
  | run => exact calm.2
  | command | keep | note => exact calm

theorem append_idle (idle : ∀ u ∈ new, u.idle = true) (calm : Calm k rest) : Calm k (new ++ rest) := by
  induction new with
  | nil => exact calm
  | cons u new ih =>
      rw [List.forall_mem_cons] at idle
      cases u with
      | drain | run => cases idle.1
      | command | keep | note => exact ih idle.2

theorem of_idle (idle : ∀ u ∈ rest, u.idle = true) : Calm k rest := by
  have calm : Calm k (rest ++ []) := append_idle idle trivial
  rwa [List.append_nil] at calm

/-- What is about to run is still to be handed out. -/
theorem keeps_of_run (calm : Calm k rest) {w : Waiting} (runs : .run w ∈ rest) :
    k ≤ w.registration ∧ ∃ key, .keep key w.registration ∈ rest := by
  induction rest with
  | nil => cases runs
  | cons t rest ih =>
      rcases List.mem_cons.mp runs with rfl | later
      · obtain ⟨⟨le, key, keep⟩, -⟩ := calm
        exact ⟨le, key, List.mem_cons_of_mem _ keep⟩
      · obtain ⟨le, key, keep⟩ := ih calm.tail later
        exact ⟨le, key, List.mem_cons_of_mem _ keep⟩

end Calm

namespace Registry.Does

theorem next_le (does : s.Does t s' new) : s.next ≤ s'.next := by
  cases does <;> first | exact Nat.le_refl _ | exact Nat.le_succ _

section Requested

variable (does : s.Does t s' new) (asked : s.requested = true)
include does asked

/-- Once cancellation was asked for, nothing waits that did not wait before. -/
theorem waiting_nil (nobody : s.waiting = []) : s'.waiting = [] := by
  cases does with
  | join key body callback unasked => exact absurd (asked.symm.trans unasked) (by decide)
  | withdraw => simp [nobody]
  | drain => rfl
  | win | late | nowhere | nothing | run | keep | note => exact nobody

/-- What is left to be done then is idle, but for a drain and for a callback that is registered. -/
theorem idle_or (undrained : t ≠ .drain) : (∀ u ∈ new, u.idle = true) ∨
    ∃ key body others, (∀ u ∈ others, u.idle = true) ∧
      new = .run ⟨s.next, key, body⟩ :: .keep key s.next :: others := by
  cases does with
  | win callback unasked => exact absurd (asked.symm.trans unasked) (by decide)
  | join key body callback unasked => exact absurd (asked.symm.trans unasked) (by decide)
  | late key body => exact .inr ⟨key, body, _, idle_notes _ _ _, rfl⟩
  | nowhere => exact .inl (List.forall_mem_cons.mpr ⟨rfl, idle_notes _ _ _⟩)
  | withdraw | nothing => exact .inl (idle_notes _ _ _)
  | drain => exact absurd rfl undrained
  | run w =>
      left
      intro u inside
      obtain ⟨c, -, rfl⟩ := List.mem_map.mp inside
      rfl
  | keep | note => exact .inl (List.forall_mem_nil _)

theorem undrained (undrained : t ≠ .drain) : .drain ∉ new := by
  intro inside
  rcases does.idle_or asked undrained with idle | ⟨key, body, others, idle, rfl⟩
  · cases idle _ inside
  · have other : .drain ∈ others := by simpa using inside
    cases idle _ other

/-- Calm callers stay calm. -/
theorem calm (numbered : k ≤ s.next) (calm : Calm k (t :: rest)) : Calm k (new ++ rest) := by
  have undrained : t ≠ .drain := by
    rintro rfl
    exact calm
  rcases does.idle_or asked undrained with idle | ⟨key, body, others, idle, rfl⟩
  · exact .append_idle idle calm.tail
  · exact ⟨⟨numbered, key, List.mem_cons_self⟩, .append_idle (List.forall_mem_cons.mpr ⟨rfl, idle⟩) calm.tail⟩

end Requested

end Registry.Does

/-! ## After the first call -/

namespace Machine

variable {i : Nat} {m m' : Machine} {trace : List Section} {before after : List (List Task)} {base : List Task}

/-- Nothing waits any more, and all callers are calm. -/
structure Settled (k : Nat) (m : Machine) : Prop where
  requested : m.registry.requested = true
  numbered : k ≤ m.registry.next
  nobody : m.registry.waiting = []
  calm : ∀ tasks ∈ m.callers, Calm k tasks

/-- The first call is under way: its caller is still to drain, or has drained and not yet come to the rest of its tasks.
    The other callers are calm. -/
structure Settling (k i : Nat) (base : List Task) (m : Machine) : Prop where
  requested : m.registry.requested = true
  numbered : k ≤ m.registry.next
  others : ∀ j tasks, j ≠ i → m.callers[j]? = some tasks → Calm k tasks
  following : Calm k base
  own : m.callers[i]? = some (.drain :: base) ∨ m.registry.waiting = [] ∧
    ∃ pending, m.callers[i]? = some (pending ++ base) ∧ pending ≠ [] ∧ .drain ∉ pending

theorem getElem?_middle (before after : List (List Task)) (old new : List Task) (j : Nat) :
    (before ++ new :: after)[j]? = if j = before.length then some new else (before ++ old :: after)[j]? := by
  by_cases first : j < before.length
  · rw [List.getElem?_append_left first, List.getElem?_append_left first, if_neg (Nat.ne_of_lt first)]
  · have le := Nat.le_of_not_lt first
    rw [List.getElem?_append_right le, List.getElem?_append_right le]
    cases place : j - before.length with
    | zero => rw [if_pos (by omega), List.getElem?_cons_zero]
    | succ n => rw [if_neg (by omega), List.getElem?_cons_succ, List.getElem?_cons_succ]

/-- The first call is under way as long as its caller has something to do before the rest of its tasks. -/
theorem settling_or_settled {pending : List Task} (requested : m.registry.requested = true)
    (numbered : k ≤ m.registry.next) (others : ∀ j tasks, j ≠ i → m.callers[j]? = some tasks → Calm k tasks)
    (following : Calm k base) (nobody : m.registry.waiting = []) (own : m.callers[i]? = some (pending ++ base))
    (undrained : .drain ∉ pending) : Settling k i base m ∨ Settled k m := by
  cases pending with
  | cons u pending =>
      left
      exact ⟨requested, numbered, others, following, .inr ⟨nobody, _, own, List.cons_ne_nil u pending, undrained⟩⟩
  | nil =>
      refine .inr ⟨requested, numbered, nobody, fun tasks inside => ?_⟩
      obtain ⟨j, there⟩ := List.mem_iff_getElem?.mp inside
      by_cases here : j = i
      · rw [here, own] at there
        cases there
        exact following
      · exact others j tasks here there

theorem Settled.more (booked : Booked trace ⟨s, before ++ (t :: rest) :: after⟩)
    (settled : Settled k ⟨s, before ++ (t :: rest) :: after⟩) :
    Settled k ⟨(s.advance t).1, before ++ ((s.advance t).2 ++ rest) :: after⟩ := by
  have does : s.Does t (s.advance t).1 (s.advance t).2 :=
    Registry.does_advance booked.sides (booked.holds t first_mem_tasks)
  constructor
  case requested => exact does.requested settled.requested
  case numbered => exact Nat.le_trans settled.numbered does.next_le
  case nobody => exact does.waiting_nil settled.requested settled.nobody
  case calm =>
    intro tasks inside
    have here := settled.calm (t :: rest) (by simp)
    rcases List.mem_append.mp inside with first | later
    · exact settled.calm tasks (List.mem_append_left _ first)
    · rcases List.mem_cons.mp later with rfl | last
      · exact does.calm settled.requested settled.numbered here
      · exact settled.calm tasks (List.mem_append_right _ (List.mem_cons_of_mem _ last))

/-- A section of the first call or of another caller: the call is still under way, or it has returned. -/
theorem Settling.more (booked : Booked trace ⟨s, before ++ (t :: rest) :: after⟩)
    (settling : Settling k i base ⟨s, before ++ (t :: rest) :: after⟩) :
    Settling k i base ⟨(s.advance t).1, before ++ ((s.advance t).2 ++ rest) :: after⟩ ∨
      Settled k ⟨(s.advance t).1, before ++ ((s.advance t).2 ++ rest) :: after⟩ := by
  have does : s.Does t (s.advance t).1 (s.advance t).2 :=
    Registry.does_advance booked.sides (booked.holds t first_mem_tasks)
  obtain ⟨requested, numbered, others, following, own⟩ := settling
  have requested' := does.requested requested
  have numbered' := Nat.le_trans numbered does.next_le
  have middle := getElem?_middle before after (t :: rest)
  have here : (before ++ (t :: rest) :: after)[before.length]? = some (t :: rest) := by simp
  by_cases acts : i = before.length
  · -- The caller of the first call acts, and the others are left as they are.
    subst acts
    have others' (j : Nat) (tasks : List Task) (other : j ≠ before.length)
        (there : (before ++ ((s.advance t).2 ++ rest) :: after)[j]? = some tasks) : Calm k tasks := by
      rw [middle, if_neg other] at there
      exact others j tasks other there
    rcases own with drains | ⟨nobody, pending, runs, some_, undrained⟩
    · rw [here] at drains
      obtain ⟨rfl, rfl⟩ := List.cons.inj (Option.some.inj drains)
      exact settling_or_settled (m := ⟨_, _⟩) requested' numbered' others' following rfl (by rw [middle, if_pos rfl])
        (by simp [Registry.advance])
    · rw [here] at runs
      cases pending with
      | nil => exact absurd rfl some_
      | cons u pending =>
          obtain ⟨rfl, rfl⟩ := List.cons.inj (Option.some.inj runs)
          rw [List.mem_cons, not_or] at undrained
          have undrained' : .drain ∉ (s.advance t).2 ++ pending := by
            rw [List.mem_append, not_or]
            exact ⟨does.undrained requested (Ne.symm undrained.1), undrained.2⟩
          exact settling_or_settled (m := ⟨_, _⟩) requested' numbered' others' following
            (does.waiting_nil requested nobody) (by rw [middle, if_pos rfl, List.append_assoc]; rfl) undrained'
  · -- Another caller acts, and stays calm.
    have calm : Calm k (t :: rest) := others before.length (t :: rest) (Ne.symm acts) here
    left
    constructor
    case requested => exact requested'
    case numbered => exact numbered'
    case others =>
      intro j tasks other there
      rw [middle] at there
      split at there
      · cases there
        exact does.calm requested numbered calm
      · exact others j tasks other there
    case following => exact following
    case own =>
      rw [middle, if_neg acts]
      exact own.imp_right fun drained => ⟨does.waiting_nil requested drained.1, drained.2⟩

/-! ## The whole course -/

theorem Performs.booked {trace' : List Section} (performed : m.Performs trace m') (booked : Booked trace' m) :
    Booked (trace' ++ trace) m' := by
  induction performed with
  | nothing => rwa [List.append_nil]
  | more _ ih =>
      rw [← List.append_assoc]
      exact ih.more

/-- What is kept by every section is kept by any number of them. -/
theorem Performs.keeps {P : Machine → Prop} {trace' : List Section} (performed : m.Performs trace m')
    (booked : Booked trace' m) (held : P m)
    (more : ∀ {trace s before t rest after}, Booked trace ⟨s, before ++ (t :: rest) :: after⟩ →
      P ⟨s, before ++ (t :: rest) :: after⟩ → P ⟨(s.advance t).1, before ++ ((s.advance t).2 ++ rest) :: after⟩) :
    P m' := by
  induction performed with
  | nothing => exact held
  | more performed ih => exact more (performed.booked booked) ih

/-- In the course of a trace somebody has asked for cancellation first, and the call has returned: its caller has come
    to the tasks that it had after it. -/
inductive CancelReturned (m : Machine) : List Section → Machine → Prop
  | intro {earlier during later : List Section} {s : Registry} {before after : List (List Task)} {rest : List Task}
      {callback : Option String} {returned m' : Machine}
      (called : m.Performs earlier ⟨s, before ++ (.command .cancel callback :: rest) :: after⟩)
      (first : s.requested = false)
      (acted : Performs ⟨(s.advance (.command .cancel callback)).1,
        before ++ ((s.advance (.command .cancel callback)).2 ++ rest) :: after⟩ during returned)
      (returns : returned.callers[before.length]? = some (notes .cancel callback .done ++ rest))
      (went : returned.Performs later m') :
      CancelReturned m (earlier ++ [⟨s, .command .cancel callback⟩] ++ during ++ later) m'

/-- Once cancellation was asked for, every section finds it so. -/
theorem Performs.found_requested {trace' : List Section} (performed : m.Performs trace m') (booked : Booked trace' m)
    (asked : m.registry.requested = true) : m'.registry.requested = true ∧ ∀ x ∈ trace, x.found.requested = true := by
  induction performed with
  | nothing => exact ⟨asked, List.forall_mem_nil _⟩
  | more performed ih =>
      obtain ⟨requested, found⟩ := ih
      have booked := performed.booked booked
      have does := Registry.does_advance booked.sides (booked.holds _ first_mem_tasks)
      refine ⟨does.requested requested, fun x inside => ?_⟩
      rcases List.mem_append.mp inside with earlier | last
      · exact found x earlier
      · rw [List.mem_singleton.mp last]
        exact requested

/-- The call that asks first finds nobody at work on callbacks, and is to take those that wait. -/
theorem Booked.settling {callback : Option String}
    (booked : Booked trace ⟨s, before ++ (.command .cancel callback :: rest) :: after⟩) (first : s.requested = false) :
    Settling s.next before.length (notes .cancel callback .done ++ rest)
      ⟨(s.advance (.command .cancel callback)).1,
        before ++ ((s.advance (.command .cancel callback)).2 ++ rest) :: after⟩ := by
  have source : s.sourceHeld = true := booked.sides.source
  have performed : s.perform .cancel = (.done, { s with requested := true }, [.drain]) := by
    simp [Registry.perform, source, first]
  rw [Registry.advance_command performed]
  have idle (tasks : List Task) (caller : tasks ∈ before ++ (.command .cancel callback :: rest) :: after) :
      ∀ u ∈ tasks, u.idle = true :=
    fun u inside => (booked.quiet first).1 u (List.mem_flatten_of_mem caller inside)
  constructor
  case requested => rfl
  case numbered => exact Nat.le_refl _
  case others =>
    intro j tasks other there
    rw [getElem?_middle before after (.command .cancel callback :: rest), if_neg other] at there
    exact .of_idle (idle tasks (List.mem_of_getElem? there))
  case following =>
    exact .append_idle (idle_notes _ _ _)
      (Calm.of_idle (idle _ (List.mem_append_right _ List.mem_cons_self))).tail
  case own =>
    left
    rw [getElem?_middle before after [], if_pos rfl]
    rfl

/-- As long as the first call is under way, its caller does not come to the tasks after it. -/
theorem Settling.not_returned (settling : Settling k i base m) : m.callers[i]? ≠ some base := by
  intro returns
  rcases settling.own with drains | ⟨-, pending, runs, some_, -⟩
  · rw [returns, Option.some.injEq] at drains
    exact List.cons_ne_self _ _ drains.symm
  · rw [returns, Option.some.injEq] at runs
    exact some_ (List.self_eq_append_left.mp runs)

/-- After the first call has returned, whatever was registered before cancellation was asked for has a number below
    those of the callbacks that are still about to run. -/
theorem CancelReturned.settled (returned : CancelReturned m trace m') (booked : Booked [] m) :
    ∃ k, Settled k m' ∧ ∀ x ∈ trace, x.found.requested = false → ∀ n, x.numbers n = true → n < k := by
  cases returned with
  | @intro earlier during later s before after rest callback returned m' called first acted returns went =>
      have atCall : Booked earlier ⟨s, _⟩ := called.booked booked
      have settling := atCall.settling first
      have reached : Settling s.next before.length (notes .cancel callback .done ++ rest) returned ∨
          Settled s.next returned := by
        refine acted.keeps (P := fun m => Settling _ _ _ m ∨ Settled _ m) atCall.more (.inl settling) ?_
        intro trace s before t rest after booked reached
        exact reached.elim (·.more booked) fun settled => .inr (settled.more booked)
      have settled : Settled s.next returned := reached.resolve_left fun settling => settling.not_returned returns
      have atReturn := acted.booked atCall.more
      refine ⟨s.next, went.keeps (P := Settled _) atReturn settled fun booked settled => settled.more booked, ?_⟩
      intro x inside unasked n numbers
      simp only [List.mem_append, List.mem_singleton] at inside
      rcases inside with ((before_ | rfl) | during_) | later_
      · have some_ := List.countP_pos_iff.mpr ⟨x, before_, numbers⟩
        rw [atCall.numbers n] at some_
        split at some_
        · assumption
        · cases some_
      · cases numbers
      · have found := (acted.found_requested atCall.more settling.requested).2 x during_
        exact absurd (found.symm.trans unasked) (by decide)
      · have found := (went.found_requested atReturn settled.requested).2 x later_
        exact absurd (found.symm.trans unasked) (by decide)

/-- Callbacks that run were registered, and cancellation was asked for before. -/
theorem Performs.runs (performed : m.Performs trace m') (booked : Booked [] m) :
    ∀ x ∈ trace, ∀ w, x.task = .run w → x.found.requested = true ∧ Registered trace w := by
  induction performed with
  | nothing => exact List.forall_mem_nil _
  | more performed ih =>
      intro x inside w runs
      rcases List.mem_append.mp inside with earlier | last
      · exact (ih x earlier w runs).imp_right fun known => known.append _
      · rw [List.mem_singleton.mp last] at runs ⊢
        have here := performed.booked booked
        cases runs
        constructor
        · refine Bool.of_not_eq_false fun unasked => ?_
          cases (here.quiet unasked).1 _ first_mem_tasks
        · exact (here.origin w (.inr first_mem_tasks)).append _

/-- After the first call has returned, callbacks with a number do not run any more if it was given before cancellation
    was asked for, or if the registration has been handed out. -/
theorem Settled.nothing_owed (settled : Settled k m) (booked : Booked trace m) {n : Nat}
    (handed : n < k ∨ ∃ y ∈ trace, y.keeps n = true) : m.tasks.countP (Task.calls n) = 0 := by
  rw [List.countP_eq_zero]
  intro u inside calls
  obtain ⟨tasks, caller, there⟩ := List.mem_flatten.mp inside
  cases u with
  | run w =>
      obtain rfl : w.registration = n := by simpa [Task.calls] using calls
      obtain ⟨le, key, keep⟩ := (settled.calm tasks caller).keeps_of_run there
      rcases handed with below | ⟨y, section_, keeps⟩
      · exact absurd below (Nat.not_lt.mpr le)
      · -- The registration would be handed out twice.
        have again : 0 < m.tasks.countP (Task.keeps w.registration) :=
          List.countP_pos_iff.mpr ⟨_, List.mem_flatten_of_mem caller keep, by simp [Task.keeps]⟩
        have once : 0 < trace.countP (Section.keeps w.registration) := List.countP_pos_iff.mpr ⟨y, section_, keeps⟩
        have account := booked.keeps w.registration
        rw [booked.numbers] at account
        split at account <;> omega
  | command | drain | keep | note => cases calls

end Machine

open Machine in
/-- Callbacks run once, however callers interleave the commands of their programs and of the callbacks that run, as long
    as neither side goes: no callback runs twice, and none runs that was not registered, or before cancellation was asked
    for. Once the call that asked for it first has returned, all callbacks that were registered before it have run, and
    all others whose registration has been handed out, but for those that were taken back while they waited. -/
theorem callbacks_run_once (programs : List (List Command))
    (holding : ∀ program ∈ programs, bodyHolds program = true) (trace : List Section) (m : Machine)
    (performed : (start programs).Performs trace m) :
    (∀ n, m.registry.timesRun n ≤ 1) ∧
      (m.registry.requested = false → ∀ n, m.registry.timesRun n = 0) ∧
      (∀ x ∈ trace, ∀ w, x.task = .run w → x.found.requested = true ∧ Registered trace w) ∧
      (CancelReturned (start programs) trace m → ∀ x ∈ trace, ∀ n, x.registers n = true →
        x.found.requested = false ∨ (∃ y ∈ trace, y.keeps n = true) → (∀ y ∈ trace, y.withdraws n = false) →
        m.registry.timesRun n = 1) := by
  have booked : Booked trace m := performed.booked (.start holding)
  have account := booked.calls
  have once := booked.registers_le
  refine ⟨fun n => ?_, fun unasked => (booked.quiet unasked).2, performed.runs (.start holding), ?_⟩
  · have account := account n
    have once := once n
    omega
  · intro returned x inside n registers handed kept
    obtain ⟨k, settled, below⟩ := returned.settled (.start holding)
    have owed := settled.nothing_owed booked <| handed.imp_left fun unasked =>
      below x inside unasked n (Section.numbers_of_registers registers)
    have waits : m.registry.waits n = 0 := by rw [Registry.waits, settled.nobody, List.countP_nil]
    have withdrawn : trace.countP (Section.withdraws n) = 0 := by
      rw [List.countP_eq_zero]
      exact fun y there => Bool.eq_false_iff.mp (kept y there)
    have registered : 0 < trace.countP (Section.registers n) := List.countP_pos_iff.mpr ⟨x, inside, registers⟩
    have account := account n
    have once := once n
    omega

open Machine in
/-- A callback is registered and runs, and the one that it registers itself runs as well. -/
theorem callbacks_run_once_nested :
    let m := start [[.register "a" [.register "b" []]], [.cancel]]
    let run := m.follow [0, 1, 0, 1, 1, 1, 1, 1, 1]
    m.CancelReturned run.1 run.2 ∧ run.2.registry.timesRun 0 = 1 ∧ run.2.registry.timesRun 1 = 1 := by
  intro m run
  have performed : m.Performs run.1 run.2 := m.performs_follow _
  have returned : m.CancelReturned run.1 run.2 :=
    @CancelReturned.intro m _ _ [] _ [[.keep "a" 0]] [] [] none _ _ (m.performs_follow [0]) rfl
      (performs_follow _ [0, 1, 1, 1, 1, 1, 1]) rfl .nothing
  have outcome := (callbacks_run_once _ (by decide) run.1 run.2 performed).2.2.2 returned
  refine ⟨returned, ?_, ?_⟩
  · exact outcome (run.1.get ⟨0, by decide⟩) (List.get_mem _ _) 0 rfl (.inl rfl) (by decide)
  · exact outcome (run.1.get ⟨5, by decide⟩) (List.get_mem _ _) 1 rfl (.inr (by decide)) (by decide)

end SheetExport.Cancellation
