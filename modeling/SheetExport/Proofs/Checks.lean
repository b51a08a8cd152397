/-! # Checks made one after another

Whatever can fail is done in an order, and the first failure is the failure of all. If nothing else is kept of a value
than whether it was had, a computation that asks for several is a list of checks.
-/

namespace SheetExport

variable {α β ε : Type} {check : α → Except ε Unit} {xs : List α} {e : ε}

theorem forM_cons (x : α) (xs : List α) (check : α → Except ε Unit) :
    (x :: xs).forM check = check x >>= fun _ => xs.forM check :=
  rfl

theorem forM_eq_ok_iff : xs.forM check = .ok () ↔ ∀ x ∈ xs, check x = .ok () := by
  induction xs with
  | nil => exact iff_of_true rfl fun _ inside => nomatch inside
  | cons x xs ih =>
      rw [forM_cons, List.forall_mem_cons, ← ih]
      cases check x with
      | error e => exact iff_of_false nofun fun both => nomatch both.1
      | ok => exact (and_iff_right rfl).symm

/-- Several checks fail as the first one does that fails. -/
theorem forM_eq_error_iff :
    xs.forM check = .error e ↔
      ∃ before x after, xs = before ++ x :: after ∧ (∀ b ∈ before, check b = .ok ()) ∧ check x = .error e := by
  induction xs with
  | nil => exact iff_of_false nofun fun ⟨before, x, after, split, _⟩ => by simp at split
  | cons x xs ih =>
      rw [forM_cons]
      cases checked : check x with
      | error fault =>
          constructor
          · intro failed
            cases failed
            exact ⟨[], x, xs, rfl, nofun, checked⟩
          · rintro ⟨_ | ⟨b, before⟩, y, after, split, passed, failed⟩ <;> cases split
            · exact checked.symm.trans failed
            · exact nomatch checked.symm.trans (passed x List.mem_cons_self)
      | ok =>
          refine Iff.trans ih ⟨?_, ?_⟩
          · rintro ⟨before, y, after, rfl, passed, failed⟩
            exact ⟨x :: before, y, after, rfl, List.forall_mem_cons.mpr ⟨checked, passed⟩, failed⟩
          · rintro ⟨_ | ⟨b, before⟩, y, after, split, passed, failed⟩ <;> cases split
            · exact nomatch checked.symm.trans failed
            · exact ⟨before, y, after, rfl, (List.forall_mem_cons.mp passed).2, failed⟩

/-! ## Values asked for one after another -/

theorem bind_eq_ok_iff {x : Except ε α} {f : α → Except ε β} {b : β} :
    (x >>= f) = .ok b ↔ ∃ a, x = .ok a ∧ f a = .ok b := by
  cases x with
  | error e => exact iff_of_false nofun fun ⟨_, had, _⟩ => nomatch had
  | ok a => exact ⟨fun came => ⟨a, rfl, came⟩, fun ⟨_, had, came⟩ => Except.ok.inj had ▸ came⟩

theorem bind_eq_error_iff {x : Except ε α} {f : α → Except ε β} :
    (x >>= f) = .error e ↔ x = .error e ∨ ∃ a, x = .ok a ∧ f a = .error e := by
  cases x with
  | error fault => exact ⟨fun failed => .inl (congrArg Except.error (Except.error.inj failed)),
      fun | .inl failed => congrArg Except.error (Except.error.inj failed) | .inr ⟨_, had, _⟩ => nomatch had⟩
  | ok a => exact ⟨fun failed => .inr ⟨a, rfl, failed⟩,
      fun | .inl failed => nomatch failed | .inr ⟨_, had, failed⟩ => Except.ok.inj had ▸ failed⟩

/-- To ask for a value first fails as the check for it does, if what comes later fails alike. -/
theorem bind_eq_error_iff_of_check {x : Except ε α} {checked : Except ε Unit} {f : α → Except ε β}
    {later : Unit → Except ε Unit} (same : x.map (fun _ => ()) = checked)
    (alike : ∀ a, f a = .error e ↔ later () = .error e) :
    (x >>= f) = .error e ↔ (checked >>= later) = .error e := by
  subst same
  cases x with
  | error fault => exact ⟨fun failed => congrArg Except.error (Except.error.inj failed),
      fun failed => congrArg Except.error (Except.error.inj failed)⟩
  | ok a => exact alike a

end SheetExport
