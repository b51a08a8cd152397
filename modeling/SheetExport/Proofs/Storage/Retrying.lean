import Mathlib.Order.Bounds.Basic
import SheetExport.Proofs.Action
import SheetExport.Storage.Retrying

/-! # How often a save is tried

An action that is done again and again, each time on the state that it has left, gives one outcome after another. A
storage that tries again saves from where the content stood at first, and follows these outcomes up to the first that
settles the matter, or as far as there may be attempts.
-/

namespace SheetExport

namespace ActionOf

variable {φ σ α : Type}

/-- The state after an action was done so many times. -/
def times (a : ActionOf φ σ α) (s : σ) : Nat → σ
  | 0 => s
  | k + 1 => a.times (a.on s).2 k

/-- What comes of the `k`-th time. -/
def nth (a : ActionOf φ σ α) (s : σ) (k : Nat) : Except φ α := (a.on (a.times s (k - 1))).1

variable {a : ActionOf φ σ α} {s t : σ} {r : Except φ α} {k : Nat}

theorem nth_one (first : a.on s = (r, t)) : a.nth s 1 = r := by
  rw [nth, Nat.sub_self, times, first]

theorem times_succ (first : a.on s = (r, t)) (k : Nat) : a.times s (k + 1) = a.times t k := by
  rw [times, first]

theorem nth_succ (first : a.on s = (r, t)) (some_ : 0 < k) : a.nth s (k + 1) = a.nth t k := by
  rw [nth, nth, Nat.add_sub_cancel, show k = k - 1 + 1 by omega, times_succ first, Nat.add_sub_cancel]

end ActionOf

/-- Nothing is gained by trying again. -/
def IsSettled (outcome : Except ExportError String) : Prop :=
  ∀ e, outcome = .error e → e.isRetryable = false

/-- What a save was asked for, and where the content stood. -/
structure SaveCall where
  name : String
  contentType : String
  length : Nat
  position : Nat
  deriving Repr, DecidableEq

namespace FileStorage

variable {σ : Type} {inner : FileStorage σ} {name contentType : String} {length start n : Nat} {s t : σ × Content}
  {outcome : Except ExportError String}

/-- The storage with a log of the saves that it was asked for. -/
def logged (inner : FileStorage σ) : FileStorage (σ × List SaveCall) where
  save name contentType length := .of fun ((s, log), c) =>
    let (outcome, s, d) := (inner.save name contentType length).on (s, c)
    (outcome, (s, log ++ [⟨name, contentType, length, c.position⟩]), d)
  delete locator := (inner.delete locator).first

theorem logged_save_on (inner : FileStorage σ) (name contentType : String) (length : Nat) (own : σ)
    (log : List SaveCall) (c : Content) :
    (inner.logged.save name contentType length).on ((own, log), c) =
      let saved := (inner.save name contentType length).on (own, c)
      (saved.1, (saved.2.1, log ++ [⟨name, contentType, length, c.position⟩]), saved.2.2) :=
  rfl

/-! ## One attempt after another -/

theorem rewound_on (inner : FileStorage σ) (name contentType : String) (length start : Nat) (own : σ) (c : Content) :
    (attempts.rewound inner name contentType length start).on (own, c) =
      (inner.save name contentType length).on (own, { c with position := start }) :=
  rfl

theorem retrying_save_on (inner : FileStorage σ) (maxAttempts : Nat) (name contentType : String) (length : Nat)
    (own : σ) (c : Content) :
    ((inner.retrying maxAttempts).save name contentType length).on (own, c) =
      (attempts inner name contentType length c.position (max maxAttempts 1 - 1)).on (own, c) :=
  rfl

theorem attempts_settled (first : (attempts.rewound inner name contentType length start).on s = (outcome, t))
    (settled : IsSettled outcome) (n : Nat) :
    (attempts inner name contentType length start n).on s = (outcome, t) := by
  cases n with
  | zero => exact first
  | succ n =>
      rw [attempts, ActionOf.on_of, first]
      cases outcome with
      | ok locator => rfl
      | error e => simp only [settled e rfl, Bool.false_eq_true, if_false]

theorem attempts_unsettled (first : (attempts.rewound inner name contentType length start).on s = (outcome, t))
    (unsettled : ¬IsSettled outcome) (n : Nat) :
    (attempts inner name contentType length start (n + 1)).on s =
      (attempts inner name contentType length start n).on t := by
  rw [attempts, ActionOf.on_of, first]
  cases outcome with
  | ok locator => exact absurd (fun _ failed => nomatch failed) unsettled
  | error e =>
      cases retryable : e.isRetryable with
      | true => simp only [retryable, if_true]
      | false => exact absurd (fun _ failed => Except.error.inj failed ▸ retryable) unsettled

/-- If the second attempt comes to the same as the first, so do all. -/
theorem attempts_repeated (first : (attempts.rewound inner name contentType length start).on s = (outcome, t))
    (second : (attempts.rewound inner name contentType length start).on t = (outcome, t)) (n : Nat) :
    (attempts inner name contentType length start n).on s = (outcome, t) := by
  by_cases settled : IsSettled outcome
  · exact attempts_settled first settled n
  · induction n generalizing s with
    | zero => exact first
    | succ n ih => exact (attempts_unsettled first settled n).trans (ih second)

/-- The number of the last attempt, counted from the one before. -/
theorem ends_succ {again : Action (σ × Content) String} {bound k : Nat} (first : again.on s = (outcome, t))
    (unsettled : ¬IsSettled outcome) (some_ : 0 < k)
    (ends : IsLeast {k | k = bound ∨ 0 < k ∧ IsSettled (again.nth t k)} k) :
    IsLeast {k | k = bound + 1 ∨ 0 < k ∧ IsSettled (again.nth s k)} (k + 1) := by
  obtain ⟨inside, least⟩ := ends
  refine ⟨?_, ?_⟩
  · rcases inside with last | ⟨-, settled⟩
    · exact .inl (congrArg (· + 1) last)
    · exact .inr ⟨Nat.succ_pos k, (ActionOf.nth_succ first some_).symm ▸ settled⟩
  · rintro j (rfl | ⟨positive, settled⟩)
    · exact Nat.succ_le_succ (least (.inl rfl))
    · obtain ⟨i, rfl⟩ := Nat.exists_eq_add_one.mpr positive
      cases i with
      | zero => exact absurd (ActionOf.nth_one first ▸ settled) unsettled
      | succ i =>
          have later : IsSettled (again.nth t (i + 1)) := ActionOf.nth_succ first (Nat.succ_pos i) ▸ settled
          exact Nat.succ_le_succ (least (.inr ⟨Nat.succ_pos i, later⟩))

/-- Attempts follow the outcomes up to the first that settles the matter, or to the last attempt. -/
theorem attempts_on (inner : FileStorage σ) (name contentType : String) (length start n : Nat) (s : σ × Content) :
    let again := attempts.rewound inner name contentType length start
    ∃ k, 0 < k ∧ IsLeast {k | k = n + 1 ∨ 0 < k ∧ IsSettled (again.nth s k)} k ∧
      (attempts inner name contentType length start n).on s = (again.nth s k, again.times s k) := by
  intro again
  have atLeastOne (bound : Nat) (s : σ × Content) :
      1 ∈ lowerBounds {k | k = bound + 1 ∨ 0 < k ∧ IsSettled (again.nth s k)} := by
    rintro k (rfl | ⟨some_, -⟩)
    · exact Nat.le_add_left 1 bound
    · exact some_
  induction n generalizing s with
  | zero => exact ⟨1, Nat.one_pos, ⟨.inl rfl, atLeastOne 0 s⟩, rfl⟩
  | succ n ih =>
      rcases first : again.on s with ⟨outcome, t⟩
      have one : again.nth s 1 = outcome := ActionOf.nth_one first
      by_cases settled : IsSettled outcome
      · refine ⟨1, Nat.one_pos, ⟨.inr ⟨Nat.one_pos, one ▸ settled⟩, atLeastOne (n + 1) s⟩, ?_⟩
        rw [attempts_settled first settled, one, ActionOf.times_succ first]
        rfl
      · obtain ⟨k, some_, ends, same⟩ := ih t
        refine ⟨k + 1, Nat.succ_pos k, ends_succ first settled some_ ends, ?_⟩
        rw [attempts_unsettled first settled, same, ActionOf.nth_succ first some_, ActionOf.times_succ first]

/-! ## The log of the attempts -/

/-- What is logged when the storage is asked again and again, and that it answers as it does without a log. -/
theorem logged_times (inner : FileStorage σ) (name contentType : String) (length start : Nat) (own : σ)
    (log : List SaveCall) (c : Content) (k : Nat) :
    let again := attempts.rewound inner name contentType length start
    (attempts.rewound inner.logged name contentType length start).times ((own, log), c) k =
      (((again.times (own, c) k).1, log ++ List.replicate k ⟨name, contentType, length, start⟩),
        (again.times (own, c) k).2) := by
  intro again
  induction k generalizing own log c with
  | zero => simp [ActionOf.times]
  | succ k ih =>
      rcases first : again.on (own, c) with ⟨outcome, next, d⟩
      have noted : (attempts.rewound inner.logged name contentType length start).on ((own, log), c) =
          (outcome, (next, log ++ [⟨name, contentType, length, start⟩]), d) := by
        rw [rewound_on] at first ⊢
        rw [logged_save_on, first]
      rw [ActionOf.times_succ noted, ih, ActionOf.times_succ first, List.append_assoc, List.replicate_succ,
        List.singleton_append]

theorem logged_nth (inner : FileStorage σ) (name contentType : String) (length start : Nat) (own : σ)
    (log : List SaveCall) (c : Content) (k : Nat) :
    (attempts.rewound inner.logged name contentType length start).nth ((own, log), c) k =
      (attempts.rewound inner name contentType length start).nth (own, c) k := by
  rw [ActionOf.nth, ActionOf.nth, logged_times]
  rfl

/-- Whatever the storage does, it is asked for the same save as often as it takes until the matter is settled, if there
    may be so many attempts, always with the content where it stood at first; and its last answer is handed on. -/
theorem retrying_asks_until_settled (inner : FileStorage σ) (maxAttempts : Nat) (name contentType : String)
    (length : Nat) (own : σ) (log : List SaveCall) (c : Content) :
    let run := ((inner.logged.retrying maxAttempts).save name contentType length).on ((own, log), c)
    let answer := (attempts.rewound inner name contentType length c.position).nth (own, c)
    ((inner.retrying maxAttempts).save name contentType length).on (own, c) = (run.1, run.2.1.1, run.2.2) ∧
      ∃ k, IsLeast {k | k = max maxAttempts 1 ∨ 0 < k ∧ IsSettled (answer k)} k ∧ run.1 = answer k ∧
        run.2.1.2 = log ++ List.replicate k ⟨name, contentType, length, c.position⟩ := by
  intro run answer
  obtain ⟨n, bound⟩ : ∃ n, max maxAttempts 1 = n + 1 := ⟨max maxAttempts 1 - 1, by omega⟩
  obtain ⟨k, -, ends, ran⟩ := inner.attempts_on name contentType length c.position n (own, c)
  obtain ⟨j, -, same, noted⟩ := inner.logged.attempts_on name contentType length c.position n ((own, log), c)
  simp only [logged_nth, logged_times] at same noted
  obtain rfl : j = k := same.unique ends
  have runs : run = (inner.logged.attempts name contentType length c.position n).on ((own, log), c) := by
    rw [show run = _ from inner.logged.retrying_save_on maxAttempts name contentType length (own, log) c, bound,
      Nat.add_sub_cancel]
  rw [runs, noted, retrying_save_on, bound, Nat.add_sub_cancel, ran]
  exact ⟨rfl, j, ends, rfl, rfl⟩

end FileStorage

end SheetExport
