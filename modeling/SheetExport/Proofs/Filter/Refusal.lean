import SheetExport.Job.Service
import SheetExport.Pattern.Engine
import SheetExport.Proofs.Action
import SheetExport.Proofs.Filter.Acceptance
import SheetExport.Source.Reading

/-! # What a refused filter comes to

Whoever is handed a filter looks at it before anything else. So nothing is asked of what stands behind: no stream is
opened and no job is made.
-/

namespace SheetExport.Filter

section Engine

variable [RegexEngine] {f : Filter} {fault : FilterFault}

theorem compile_refused (refused : f.check = .error fault) : f.compile = .error fault := by
  rw [compile, refused]
  rfl

theorem source_refuses {ω α : Type} (refused : f.check = .error fault) (name : String)
    (feeds : Nat → Except ExportError (Feed ω α)) (fields : Option (α → String → Option CellValue))
    (s : FeedState ω α × ω) :
    ((Feed.source name feeds fields).streamMatching f).on s = (.error fault.toError, s) := by
  simp only [Feed.source, compile_refused refused]
  rfl

theorem unfiltered_refuses {σ ω : Type} (refused : f.check = .error fault) (stream : Action (σ × ω) Unit) (s : σ × ω) :
    (unfiltered stream f).on s = (.error fault.toError, s) := by
  refine ActionOf.on_bind_error ?_ _
  rw [ActionOf.on_failingAs, unfiltered.liftExcept, ActionOf.on_of, refused]
  rfl

theorem accept_refuses {ω : Type} (refused : f.check = .error fault) (w : Worker ω) (id : String) (world : ω) :
    (w.accept id (some f)).on world = (.error fault.toError, world) := by
  simp only [Worker.accept, refused]
  rfl

theorem start_refuses [Gzip] [Zip] {σ ω α : Type} (refused : f.check = .error fault) (w : Worker ω) (id : String)
    (schema : Schema α) (source : Source σ ω α) (s : Shift σ ω) :
    (w.start id schema source (some f)).on s = (.error (.error fault.toError), s) := by
  refine ActionOf.on_bind_error ?_ _
  rw [Worker.onWorld, ActionOf.on_within, ActionOf.on_failingAs, accept_refuses refused]
  rfl

/-- A filter is accepted exactly if each of its conditions is acceptable, and otherwise refused for what is wrong with
    the first one that is not. A refused filter is not compiled; no source opens a stream for it, whatever the source
    would do; and no job is made for it: everything is as it was, and all that comes of it is the fault. -/
theorem refused_at_every_entry (f : Filter) :
    (f.check = .ok () ↔ ∀ c ∈ f.conditions, Acceptable c.1 c.2) ∧
    (∀ fault, f.check = .error fault ↔ ∃ before key value after, f.conditions = before ++ (key, value) :: after ∧
      (∀ c ∈ before, Acceptable c.1 c.2) ∧ Offends key value fault) ∧
    ∀ fault, f.check = .error fault →
      (∃ field message shown, fault.toError = .validation (some field) message shown) ∧
      f.compile = .error fault ∧
      (∀ {ω α : Type} name feeds fields (s : FeedState ω α × ω),
        ((Feed.source name feeds fields).streamMatching f).on s = (.error fault.toError, s)) ∧
      (∀ {σ ω : Type} (stream : Action (σ × ω) Unit) s, (unfiltered stream f).on s = (.error fault.toError, s)) ∧
      ∀ [Gzip] [Zip] {σ ω α : Type} (w : Worker ω) id (schema : Schema α) (source : Source σ ω α) s,
        (w.accept id (some f)).on s.world = (.error fault.toError, s.world) ∧
        (w.start id schema source (some f)).on s = (.error (.error fault.toError), s) := by
  refine ⟨check_eq_ok_iff, fun fault => check_eq_error_iff, fun fault refused => ?_⟩
  obtain ⟨_, _, _, _, -, -, offends⟩ := check_eq_error_iff.mp refused
  obtain ⟨message, shown, named⟩ := offends.toError
  refine ⟨?_, compile_refused refused, source_refuses refused, unfiltered_refuses refused, ?_⟩
  · exact named.elim (fun key => ⟨_, _, _, key.1⟩) fun value => ⟨_, _, _, value.1⟩
  · exact fun w id schema source s => ⟨accept_refuses refused w id s.world, start_refuses refused w id schema source s⟩

end Engine

/-- Two of these conditions are wrong, and the first of them has a blank in its key. -/
def blankInKey : Filter :=
  ofList [("n", .scalar (.int 1)), ("a b", .predicate (.oneOf [])), ("role", .nested [])]

/-- The filter is refused for that key, and a source of numbers is left as it was. -/
theorem refused_at_every_entry_blank :
    let numbers : Source (FeedState Unit Nat) Unit Nat := Feed.source "numbers" (fun _ => .ok (.endless id 0)) none
    let refusal := ExportError.invalidValue "filter.key" ("Filter key must contain only alphanumeric characters, " ++
      "dots, and underscores. Pattern: ^[a-zA-Z0-9._]+$") "a b"
    blankInKey.compile = .error (.badKey "a b") ∧
      (numbers.streamMatching blankInKey).on (.initial, ()) = (.error refusal, .initial, ()) := by
  intro numbers refusal
  obtain ⟨-, compiled, source, -⟩ := (refused_at_every_entry blankInKey).2.2 (.badKey "a b") rfl
  exact ⟨compiled, source "numbers" _ none (.initial, ())⟩

end SheetExport.Filter
