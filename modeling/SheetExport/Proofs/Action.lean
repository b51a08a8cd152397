import SheetExport.Action

/-! # What composed actions do

Each way of composing actions, with the outcome and the state that it leaves. An action `Keeps` what is true of
its state if it leaves it true whatever its outcome; actions put together from such actions keep it too.
-/

namespace SheetExport.ActionOf

variable {φ ψ σ τ α β : Type}

@[simp] theorem on_pure (a : α) (s : σ) : (pure a : ActionOf φ σ α).on s = (.ok a, s) := rfl

theorem on_bind (x : ActionOf φ σ α) (f : α → ActionOf φ σ β) (s : σ) :
    (x >>= f).on s = match x.on s with
      | (.ok a, t) => (f a).on t
      | (.error e, t) => (.error e, t) := by
  simp only [on, bind, ExceptT.bind, ExceptT.mk, StateT.bind]
  rcases x s with ⟨_ | _, _⟩ <;> rfl

theorem on_bind_ok {x : ActionOf φ σ α} {s t : σ} {a : α} (h : x.on s = (.ok a, t))
    (f : α → ActionOf φ σ β) : (x >>= f).on s = (f a).on t := by
  rw [on_bind, h]

theorem on_bind_error {x : ActionOf φ σ α} {s t : σ} {e : φ} (h : x.on s = (.error e, t))
    (f : α → ActionOf φ σ β) : (x >>= f).on s = (.error e, t) := by
  rw [on_bind, h]

/-- Seeing the value of an action as another leaves the state that the action left, whatever its outcome. -/
theorem state_of_bind_pure {x : ActionOf φ σ α} {s t : σ} {r : Except φ α} (h : x.on s = (r, t)) (f : α → β) :
    ((x >>= fun a => pure (f a)).on s).2 = t := by
  rw [on_bind, h]
  cases r <;> rfl

/-- Two actions that came through together did so one after the other. -/
theorem through_of_bind {x : ActionOf φ σ α} {f : α → ActionOf φ σ β} {s u : σ} {b : β}
    (ran : (x >>= f).on s = (.ok b, u)) : ∃ a t, x.on s = (.ok a, t) ∧ (f a).on t = (.ok b, u) := by
  rw [on_bind] at ran
  cases first : x.on s with
  | mk outcome t =>
      rw [first] at ran
      cases outcome with
      | error e => cases ran
      | ok a => exact ⟨a, t, rfl, ran⟩

@[simp] theorem on_get_bind (f : σ → ActionOf φ σ β) (s : σ) : (get >>= f).on s = (f s).on s := rfl

@[simp] theorem on_set_bind (t : σ) (f : PUnit → ActionOf φ σ β) (s : σ) :
    (set t >>= f).on s = (f ⟨⟩).on t := rfl

@[simp] theorem on_set (s t : σ) : (set t : ActionOf φ σ PUnit).on s = (.ok ⟨⟩, t) := rfl

@[simp] theorem on_modify (g : σ → σ) (s : σ) : (modify g : ActionOf φ σ PUnit).on s = (.ok ⟨⟩, g s) := rfl

@[simp] theorem on_modify_bind (g : σ → σ) (f : PUnit → ActionOf φ σ β) (s : σ) :
    (modify g >>= f).on s = (f ⟨⟩).on (g s) := rfl

@[simp] theorem on_throw (e : φ) (s : σ) : (throw e : ActionOf φ σ α).on s = (.error e, s) := rfl

@[simp] theorem on_throw_bind (e : φ) (f : α → ActionOf φ σ β) (s : σ) :
    ((throw e : ActionOf φ σ α) >>= f).on s = (.error e, s) := rfl

@[simp] theorem on_of (f : σ → Except φ α × σ) (s : σ) : (of f).on s = f s := rfl

theorem on_within (part : τ → σ) (put : σ → τ → τ) (a : ActionOf φ σ α) (t : τ) :
    (a.within part put).on t = ((a.on (part t)).1, put (a.on (part t)).2 t) := rfl

theorem on_first (a : ActionOf φ σ α) (s : σ) (t : τ) :
    (a.first : ActionOf φ (σ × τ) α).on (s, t) = ((a.on s).1, (a.on s).2, t) := rfl

theorem on_second (a : ActionOf φ σ α) (s : σ) (t : τ) :
    (a.second : ActionOf φ (τ × σ) α).on (t, s) = ((a.on s).1, t, (a.on s).2) := rfl

theorem on_first_of {a : ActionOf φ σ α} {s s' : σ} {r : Except φ α} (h : a.on s = (r, s')) (t : τ) :
    (a.first : ActionOf φ (σ × τ) α).on (s, t) = (r, s', t) := by
  rw [on_first, h]

theorem on_second_of {a : ActionOf φ σ α} {s s' : σ} {r : Except φ α} (h : a.on s = (r, s')) (t : τ) :
    (a.second : ActionOf φ (τ × σ) α).on (t, s) = (r, t, s') := by
  rw [on_second, h]

theorem on_failingAs (f : φ → ψ) (a : ActionOf φ σ α) (s : σ) :
    (a.failingAs f).on s = ((a.on s).1.mapError f, (a.on s).2) := rfl

theorem on_failingAs_of {a : ActionOf φ σ α} {s t : σ} {b : α} (h : a.on s = (.ok b, t)) (f : φ → ψ) :
    (a.failingAs f).on s = (.ok b, t) := by
  rw [on_failingAs, h]
  rfl

theorem through_of_failingAs {f : φ → ψ} {a : ActionOf φ σ α} {s t : σ} {b : α}
    (ran : (a.failingAs f).on s = (.ok b, t)) : a.on s = (.ok b, t) := by
  rw [on_failingAs] at ran
  cases inner : a.on s with
  | mk outcome u =>
      rw [inner] at ran
      cases outcome with
      | error e => cases ran
      | ok _ =>
          cases ran
          rfl

/-- So did an action on a part of a state. -/
theorem through_of_within {f : φ → ψ} {part : τ → σ} {put : σ → τ → τ} {a : ActionOf φ σ α} {t u : τ} {b : α}
    (ran : ((a.failingAs f).within part put).on t = (.ok b, u)) : ∃ s, a.on (part t) = (.ok b, s) ∧ u = put s t := by
  rw [on_within, on_failingAs] at ran
  cases inner : a.on (part t) with
  | mk outcome s =>
      rw [inner] at ran
      cases outcome with
      | error e => cases ran
      | ok _ =>
          cases ran
          exact ⟨s, rfl, rfl⟩

theorem through_of_second {a : ActionOf φ σ α} {s : σ} {t : τ} {u : τ × σ} {b : α}
    (ran : (a.second : ActionOf φ (τ × σ) α).on (t, s) = (.ok b, u)) : ∃ s', a.on s = (.ok b, s') ∧ u = (t, s') := by
  rw [on_second] at ran
  obtain ⟨outcome, rfl⟩ := Prod.ext_iff.mp ran
  exact ⟨(a.on s).2, Prod.ext outcome rfl, rfl⟩

@[simp] theorem on_caught (a : ActionOf φ σ α) (s : σ) :
    (a.caught : ActionOf ψ σ (Except φ α)).on s = (.ok (a.on s).1, (a.on s).2) := rfl

/-- What an action comes to is handed to the step after it. -/
theorem attempt_bind {a : ActionOf φ σ α} {s t : σ} {r : Except φ α} (h : a.on s = (r, t))
    (f : Except φ α → StateM σ β) : (a.attempt >>= f) s = f r t := by
  change f (a.on s).1 (a.on s).2 = f r t
  rw [h]

/-! ## What actions keep -/

def Keeps (P : σ → Prop) (a : ActionOf φ σ α) : Prop := ∀ s, P s → P (a.on s).2

namespace Keeps

variable {P : σ → Prop} {x : ActionOf φ σ α}

protected theorem pure (a : α) : Keeps P (pure a : ActionOf φ σ α) := fun _ held => held

protected theorem throw (e : φ) : Keeps P (throw e : ActionOf φ σ α) := fun _ held => held

protected theorem get : Keeps P (get : ActionOf φ σ σ) := fun _ held => held

protected theorem modify {g : σ → σ} (keeps : ∀ s, P s → P (g s)) : Keeps P (modify g : ActionOf φ σ PUnit) := keeps

/-- What is true after the first of two actions, and kept by the second, is true after both. -/
theorem after {f : α → ActionOf φ σ β} {s : σ} (first : P (x.on s).2) (second : ∀ a, Keeps P (f a)) :
    P ((x >>= f).on s).2 := by
  rw [on_bind]
  cases ran : x.on s with
  | mk outcome t =>
      rw [ran] at first
      cases outcome with
      | error e => exact first
      | ok a => exact second a t first

protected theorem bind {f : α → ActionOf φ σ β} (first : Keeps P x) (second : ∀ a, Keeps P (f a)) :
    Keeps P (x >>= f) :=
  fun s held => after (first s held) second

/-- What one thing being true leads to, when an action that keeps it comes first. -/
theorem bind_to {Q : σ → Prop} {f : α → ActionOf φ σ β} (first : Keeps P x) (enough : ∀ s, P s → Q s)
    (second : ∀ a s, P s → Q ((f a).on s).2) (s : σ) (held : P s) : Q ((x >>= f).on s).2 := by
  have kept := first s held
  rw [on_bind]
  cases ran : x.on s with
  | mk outcome t =>
      rw [ran] at kept
      cases outcome with
      | error e => exact enough t kept
      | ok a => exact second a t kept

end Keeps

/-! ## What actions come to where a file may fail -/

/-- A run comes through and leaves what is then to be true, or it fails and there is an excuse. -/
def Ends (excuse : Prop) (ran : Except φ Unit × σ) (P : σ → Prop) : Prop :=
  (∃ t, ran = (.ok (), t) ∧ P t) ∨ excuse ∧ ∃ e t, ran = (.error e, t)

namespace Ends

variable {excuse : Prop} {ran : Except φ Unit × σ} {P : σ → Prop}

theorem of_through (through : ¬excuse → ∃ t, ran = (.ok (), t)) (enough : ∀ t, ran = (.ok (), t) → P t) :
    Ends excuse ran P := by
  obtain ⟨outcome, t⟩ := ran
  cases outcome with
  | ok _ => exact .inl ⟨t, rfl, enough t rfl⟩
  | error e =>
      refine .inr ⟨Classical.byContradiction fun none => ?_, e, t, rfl⟩
      obtain ⟨_, came⟩ := through none
      cases came

theorem imp {Q : σ → Prop} (ends : Ends excuse ran P) (enough : ∀ t, P t → Q t) : Ends excuse ran Q :=
  Or.imp_left (fun ⟨t, came, held⟩ => ⟨t, came, enough t held⟩) ends

theorem comes (ends : Ends excuse ran P) (none : ¬excuse) : ∃ t, ran = (.ok (), t) ∧ P t :=
  ends.resolve_right fun failed => none failed.1

theorem through (ends : Ends excuse ran P) (none : ¬excuse) : ∃ t, ran = (.ok (), t) := by
  obtain ⟨t, came, -⟩ := ends.comes none
  exact ⟨t, came⟩

theorem held (ends : Ends excuse ran P) {t : σ} (through : ran = (.ok (), t)) : P t := by
  obtain ⟨_, came, held⟩ | ⟨-, _, _, failed⟩ := ends
  · rw [through] at came
    cases came
    exact held
  · rw [through] at failed
    cases failed

end Ends

/-- The action comes through, and leaves what is then to be true; or it fails with the fault of a file, for which there is
    an excuse. -/
def ComesTo (a : Action σ α) (s : σ) (excuse : Prop) (P : α → σ → Prop) : Prop :=
  (∃ x t, a.on s = (.ok x, t) ∧ P x t) ∨ (excuse ∧ ∃ fault t, a.on s = (.error (.io fault), t))

namespace ComesTo

variable {a : Action σ α} {s t : σ} {excuse : Prop} {P : α → σ → Prop} {x : α}

theorem of_ok (ran : a.on s = (.ok x, t)) (held : P x t) : a.ComesTo s excuse P := .inl ⟨x, t, ran, held⟩

/-- An action on a file that comes through without an excuse. -/
theorem of_io {a : ActionOf IoFault σ α} (through : ¬excuse → ∃ x t, a.on s = (.ok x, t))
    (enough : ∀ x t, a.on s = (.ok x, t) → P x t) : ComesTo (a.failingAs .io) s excuse P := by
  rw [ComesTo, on_failingAs]
  cases ran : a.on s with
  | mk outcome t =>
      cases outcome with
      | ok x => exact .inl ⟨x, t, rfl, enough x t ran⟩
      | error fault =>
          refine .inr ⟨Classical.byContradiction fun none => ?_, fault, t, rfl⟩
          obtain ⟨_, _, came⟩ := through none
          cases ran.symm.trans came

/-- Without an excuse the action comes through. -/
theorem through (comes : a.ComesTo s excuse P) (none : ¬excuse) : ∃ x t, a.on s = (.ok x, t) ∧ P x t :=
  comes.resolve_right fun failed => none failed.1

theorem of_through (comes : a.ComesTo s excuse P) (ran : a.on s = (.ok x, t)) : P x t := by
  obtain ⟨_, _, ran', held⟩ | ⟨-, _, _, failed⟩ := comes
  · rw [ran] at ran'
    cases ran'
    exact held
  · rw [ran] at failed
    cases failed

theorem imp {excuse' : Prop} {Q : α → σ → Prop} (comes : a.ComesTo s excuse P) (excused : excuse → excuse')
    (enough : ∀ x t, P x t → Q x t) : a.ComesTo s excuse' Q :=
  Or.imp (fun ⟨x, t, ran, held⟩ => ⟨x, t, ran, enough x t held⟩) (And.imp_left excused) comes

/-- What a call on a file comes to that is made on a part of a state. -/
theorem of_ends {ran : Except IoFault Unit × τ} {R : τ → Prop} {b : Action σ Unit} {Q : Unit → σ → Prop} (put : τ → σ)
    (ends : Ends excuse ran R) (same : b.on s = (ran.1.mapError .io, put ran.2)) (enough : ∀ t, R t → Q () (put t)) :
    b.ComesTo s excuse Q := by
  rw [ComesTo, same]
  obtain ⟨t, rfl, held⟩ | ⟨excused, fault, t, rfl⟩ := ends
  · exact .inl ⟨(), put t, rfl, enough t held⟩
  · exact .inr ⟨excused, fault, put t, rfl⟩

theorem bind {f : α → Action σ β} {Q : β → σ → Prop} (first : a.ComesTo s excuse P)
    (second : ∀ x t, P x t → (f x).ComesTo t excuse Q) : (a >>= f).ComesTo s excuse Q := by
  obtain ⟨x, t, ran, held⟩ | ⟨excused, fault, t, failed⟩ := first
  · obtain ⟨y, u, ran', held⟩ | ⟨excused, fault, u, failed⟩ := second x t held
    · exact .inl ⟨y, u, (on_bind_ok ran f).trans ran', held⟩
    · exact .inr ⟨excused, fault, u, (on_bind_ok ran f).trans failed⟩
  · exact .inr ⟨excused, fault, t, on_bind_error failed f⟩

/-- An action after one that comes through anyway. -/
theorem after {f : α → Action σ β} {Q : β → σ → Prop} (ran : a.on s = (.ok x, t))
    (second : (f x).ComesTo t excuse Q) : (a >>= f).ComesTo s excuse Q := by
  rw [ComesTo, on_bind_ok ran f]
  exact second

theorem within {part : τ → σ} {put : σ → τ → τ} {u : τ} (comes : a.ComesTo (part u) excuse P) :
    ComesTo (a.within part put) u excuse fun x v => ∃ t, P x t ∧ v = put t u := by
  rw [ComesTo, on_within]
  obtain ⟨x, t, ran, held⟩ | ⟨excused, fault, t, failed⟩ := comes
  · exact .inl ⟨x, put t u, by rw [ran], t, held, rfl⟩
  · exact .inr ⟨excused, fault, put t u, by rw [failed]⟩

theorem first {u : τ} (comes : a.ComesTo s excuse P) :
    ComesTo (a.first : Action (σ × τ) α) (s, u) excuse fun x v => P x v.1 ∧ v.2 = u := by
  have inner : ComesTo (a.first : Action (σ × τ) α) (s, u) excuse fun x v => ∃ t, P x t ∧ v = (t, u) := within comes
  refine inner.imp id ?_
  rintro x _ ⟨t, held, rfl⟩
  exact ⟨held, rfl⟩

theorem second {u : τ} (comes : a.ComesTo s excuse P) :
    ComesTo (a.second : Action (τ × σ) α) (u, s) excuse fun x v => P x v.2 ∧ v.1 = u := by
  have inner : ComesTo (a.second : Action (τ × σ) α) (u, s) excuse fun x v => ∃ t, P x t ∧ v = (u, t) := within comes
  refine inner.imp id ?_
  rintro x _ ⟨t, held, rfl⟩
  exact ⟨held, rfl⟩

end ComesTo

end SheetExport.ActionOf
