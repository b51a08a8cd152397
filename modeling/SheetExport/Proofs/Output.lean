import SheetExport.Proofs.Action
import SheetExport.Sink

/-! # Outputs that take everything, and outputs that may fail

`H taken s` says that a state `s` has taken some bytes so far, whatever else is true of it. An action `Appends` bytes with
respect to `H` if what has been taken grows by these bytes whenever it succeeds, and if it fails only where there is an
excuse for it. Actions that append can be put one after another, so that nothing above an output looks at its state.
An output that may fail still `TakesWhole` chunks if nothing of a failed write is in it.
-/

namespace SheetExport

theorem toUTF8_append (s t : String) : (s ++ t).toUTF8 = s.toUTF8 ++ t.toUTF8 := String.toByteArray_append

variable {τ β : Type} {H : ByteArray → τ → Prop} {excuse : ByteArray → Prop}

/-- The action adds the bytes to what has been taken, or it fails and all the bytes together excuse it. -/
def Appends (excuse : ByteArray → Prop) (H : ByteArray → τ → Prop) (a : Action τ Unit) (bytes : ByteArray) : Prop :=
  ∀ taken s, H taken s → a.ComesTo s (excuse (taken ++ bytes)) fun _ => H (taken ++ bytes)

/-- What excuses a failure does so still when there is more to take. -/
def Lasts (excuse : ByteArray → Prop) : Prop := ∀ x y, excuse x → excuse (x ++ y)

namespace Appends

theorem nothing : Appends excuse H (pure ()) .empty :=
  fun taken s h => .of_ok rfl (by rwa [ByteArray.append_empty])

theorem seq {a b : Action τ Unit} {x y : ByteArray} (lasts : Lasts excuse) (first : Appends excuse H a x)
    (second : Appends excuse H b y) : Appends excuse H (do a; b) (x ++ y) := by
  intro taken s h
  rw [← ByteArray.append_assoc]
  exact ((first taken s h).imp (lasts _ y) fun _ _ held => held).bind fun _ t held => second _ t held

/-- What is appended for one element after another is appended as one text. -/
theorem forM {f : β → Action τ Unit} {text : β → String} (lasts : Lasts excuse)
    (each : ∀ b, Appends excuse H (f b) (text b).toUTF8) (bs : List β) :
    Appends excuse H (bs.forM f) (String.join (bs.map text)).toUTF8 := by
  induction bs with
  | nil => exact nothing
  | cons b bs ih =>
      rw [List.map_cons, show String.join (text b :: bs.map text) = text b ++ String.join (bs.map text) by simp,
        toUTF8_append]
      exact (each b).seq lasts ih

end Appends

/-- An output that takes what it is offered, or has an excuse. -/
structure Takes {ω : Type} [Output ω] (excuse : ByteArray → Prop) (H : ByteArray → ω → Prop) : Prop where
  write (bytes : ByteArray) : Appends excuse H (Output.write bytes) bytes
  flush : Appends excuse H Output.flush .empty
  lasts : Lasts excuse

/-- An output that takes whatever it is offered. -/
structure TakesAll {ω : Type} [Output ω] (H : ByteArray → ω → Prop) : Prop where
  write : ∀ bytes taken s, H taken s →
    ∃ t, (Output.write bytes : Action ω Unit).on s = (.ok (), t) ∧ H (taken ++ bytes) t
  flush : ∀ taken s, H taken s → ∃ t, (Output.flush : Action ω Unit).on s = (.ok (), t) ∧ H taken t

/-- It has no excuse. -/
theorem TakesAll.takes {ω : Type} [Output ω] {H : ByteArray → ω → Prop} (all : TakesAll H) :
    Takes (fun _ => False) H where
  write bytes taken s h := by
    obtain ⟨t, wrote, held⟩ := all.write bytes taken s h
    exact .of_ok wrote held
  flush taken s h := by
    obtain ⟨t, flushed, held⟩ := all.flush taken s h
    exact .of_ok flushed (by rwa [ByteArray.append_empty])
  lasts _ _ excused := excused

/-- An output that takes all bytes of a write, or none of them if the write fails. -/
structure TakesWhole {ω : Type} [Output ω] (content : ω → ByteArray) : Prop where
  taken {bytes : ByteArray} {s t : ω} :
    (Output.write bytes : Action ω Unit).on s = (.ok (), t) → content t = content s ++ bytes
  refused {bytes : ByteArray} {s t : ω} {e : ExportError} :
    (Output.write bytes : Action ω Unit).on s = (.error e, t) → content t = content s
  flushed (s : ω) : content ((Output.flush : Action ω Unit).on s).2 = content s

theorem TakesWhole.of_write {ω : Type} [Output ω] {content : ω → ByteArray}
    (wrote : ∀ bytes s, let (outcome, t) := (Output.write bytes : Action ω Unit).on s
      content t = match outcome with
        | .ok _ => content s ++ bytes
        | .error _ => content s)
    (flushed : ∀ s, content ((Output.flush : Action ω Unit).on s).2 = content s) : TakesWhole content where
  taken {bytes s _} ran := by simpa only [ran] using wrote bytes s
  refused {bytes s _ _} ran := by simpa only [ran] using wrote bytes s
  flushed := flushed

namespace Sink

/-- Whatever its limit, and whether or not it refuses flushes. -/
theorem takesWhole : TakesWhole content := by
  refine .of_write (fun bytes s => ?_) fun _ => rfl
  simp only [Output.write, write, ActionOf.on_failingAs, ActionOf.on_of]
  split <;> rfl

/-- A sink without a limit that does not refuse flushes, with what it has taken so far. -/
def Open (content : ByteArray) (s : Sink) : Prop :=
  s.limit = none ∧ s.refusesFlush = false ∧ s.content = content

theorem takesAll : TakesAll Open where
  write bytes := by
    rintro _ s ⟨limit, flushes, rfl⟩
    have ran : (write bytes).on s = (.ok (), { s with content := s.content ++ bytes }) := by
      simp [write, hasRoom, limit]
    exact ⟨_, ActionOf.on_failingAs_of ran _, limit, flushes, rfl⟩
  flush := by
    rintro content s ⟨limit, flushes, rfl⟩
    have ran : Sink.flush.on s = (.ok (), s) := by simp [flush, flushes]
    exact ⟨s, ActionOf.on_failingAs_of ran _, limit, flushes, rfl⟩

end Sink

end SheetExport
