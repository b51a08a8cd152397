import SheetExport.Proofs.Action
import SheetExport.Source.Reading

/-! # Which resources are open

A resource that is tracked is open until it is released, by its handle or together with all others that are tracked.
So a source over feeds, which tracks each of its streams, has none open after it was closed.
-/

namespace SheetExport

namespace OpenResources

variable {s : OpenResources} {handle k : Nat}

/-- To track a resource opens it under a handle that is new, and changes nothing else. -/
theorem isOpen_track (s : OpenResources) (name : String) (hook : Option (Except ExportError Unit)) (k : Nat) :
    (s.track name hook).2.isOpen k = (s.isOpen k || k == (s.track name hook).1) := by
  simp only [track, isOpen]
  rcases Nat.lt_trichotomy k s.all.length with lt | rfl | gt
  · simp [List.getElem?_append_left lt, Nat.ne_of_lt lt]
  · simp
  · rw [List.getElem?_eq_none (by simp; omega), List.getElem?_eq_none (Nat.le_of_lt gt)]
    simp [Nat.ne_of_gt gt]

theorem tracked_track (s : OpenResources) (name : String) (hook : Option (Except ExportError Unit)) :
    (s.track name hook).2.tracked = s.tracked.filter s.isOpen ++ [(s.track name hook).1] :=
  rfl

/-- To release a handle either finds nothing open under it, or notes that the resource is released. -/
theorem release_state (s : OpenResources) (handle : Nat) :
    (s.isOpen handle = false ∧ (s.release handle).2 = s) ∨
      ∃ r, s.all[handle]? = some r ∧ (s.release handle).2.all = s.all.set handle { r with released := true } ∧
        (s.release handle).2.tracked = s.tracked := by
  cases there : s.all[handle]? with
  | none => exact .inl ⟨by rw [isOpen, there]; rfl, by rw [release, there]⟩
  | some r =>
      cases released : r.released with
      | true => exact .inl ⟨by simp [isOpen, there, released], by simp [release, there, released]⟩
      | false =>
          right
          refine ⟨r, rfl, ?_⟩
          simp only [release, there, released, Bool.false_eq_true, if_false]
          cases r.hook <;> exact ⟨rfl, rfl⟩

/-- A resource is not open after it was released, and no other resource is touched. -/
theorem isOpen_release (s : OpenResources) (handle k : Nat) :
    (s.release handle).2.isOpen k = (s.isOpen k && k != handle) := by
  by_cases same : k = handle
  · subst same
    rw [bne_self_eq_false, Bool.and_false]
    rcases s.release_state k with ⟨gone, same⟩ | ⟨r, there, all, -⟩
    · rw [same, gone]
    · simp [isOpen, all, List.getElem?_set_self (List.getElem?_eq_some_iff.mp there).1]
  · rw [bne_iff_ne.mpr same, Bool.and_true]
    rcases s.release_state handle with ⟨-, same⟩ | ⟨r, -, all, -⟩
    · rw [same]
    · rw [isOpen, all, List.getElem?_set_ne (Ne.symm same), isOpen]

theorem tracked_release (s : OpenResources) (handle : Nat) : (s.release handle).2.tracked = s.tracked := by
  rcases s.release_state handle with ⟨-, same⟩ | ⟨r, -, -, tracked⟩
  · rw [same]
  · exact tracked

theorem isOpen_foldl_release (handles : List Nat) (s : OpenResources) (k : Nat) :
    (handles.foldl (fun s h => (s.release h).2) s).isOpen k = (s.isOpen k && !handles.contains k) := by
  induction handles generalizing s with
  | nil => simp
  | cons h rest ih => rw [List.foldl_cons, ih, isOpen_release, List.contains_cons, Bool.not_or, Bool.and_assoc]; rfl

/-- After all were released, only what was not tracked is open. -/
theorem isOpen_releaseAll (s : OpenResources) (k : Nat) :
    s.releaseAll.2.isOpen k = (s.isOpen k && !s.tracked.contains k) := by
  refine (isOpen_foldl_release (s.tracked.filter s.isOpen) s k).trans ?_
  cases here : s.isOpen k with
  | false => rfl
  | true => simp [here]

/-! ## How many are open -/

/-- Of what was there and is open, nothing is given up when something else is tracked. -/
theorem openCount_track (s : OpenResources) (name : String) (hook : Option (Except ExportError Unit)) :
    (s.track name hook).2.openCount = s.openCount + 1 := by
  have before : ((s.tracked.filter s.isOpen).filter (s.track name hook).2.isOpen) = s.tracked.filter s.isOpen :=
    List.filter_eq_self.mpr fun k inside => by rw [isOpen_track, (List.mem_filter.mp inside).2, Bool.true_or]
  rw [openCount, tracked_track, List.filter_append, before, List.length_append, openCount, List.filter_cons_of_pos]
  · rfl
  · rw [isOpen_track, beq_self_eq_true, Bool.or_true]

theorem openCount_releaseAll (s : OpenResources) : s.releaseAll.2.openCount = 0 := rfl

/-- No handle is tracked twice, and none that was not given out. -/
structure Distinct (s : OpenResources) : Prop where
  once : s.tracked.Nodup
  below : ∀ k ∈ s.tracked, k < s.all.length

theorem openCount_release (distinct : s.Distinct) (tracked : handle ∈ s.tracked) (here : s.isOpen handle = true) :
    (s.release handle).2.openCount + 1 = s.openCount := by
  have others : s.tracked.filter (s.release handle).2.isOpen = (s.tracked.filter s.isOpen).erase handle := by
    rw [List.Nodup.erase_eq_filter (distinct.once.filter _), List.filter_filter]
    refine List.filter_congr fun k _ => ?_
    rw [isOpen_release, Bool.and_comm]
  have inside : handle ∈ s.tracked.filter s.isOpen := List.mem_filter.mpr ⟨tracked, here⟩
  rw [openCount, tracked_release, others, List.length_erase_of_mem inside, openCount]
  exact Nat.sub_add_cancel (List.length_pos_of_mem inside)

namespace Distinct

theorem empty : OpenResources.empty.Distinct := ⟨List.nodup_nil, fun _ inside => nomatch inside⟩

theorem track (distinct : s.Distinct) (name : String) (hook : Option (Except ExportError Unit)) :
    (s.track name hook).2.Distinct := by
  have length : (s.track name hook).2.all.length = s.all.length + 1 := List.length_append
  have below (k : Nat) (inside : k ∈ s.tracked.filter s.isOpen) : k < s.all.length :=
    distinct.below k (List.mem_filter.mp inside).1
  constructor
  · rw [tracked_track, List.nodup_append]
    refine ⟨distinct.once.filter _, List.pairwise_singleton _ _, fun k old l new same => ?_⟩
    obtain rfl : l = s.all.length := List.mem_singleton.mp new
    exact Nat.lt_irrefl _ (same ▸ below k old)
  · rw [tracked_track, length]
    intro k inside
    rcases List.mem_append.mp inside with old | new
    · exact Nat.lt_succ_of_lt (below k old)
    · exact List.mem_singleton.mp new ▸ Nat.lt_succ_self s.all.length

theorem release (distinct : s.Distinct) (handle : Nat) : (s.release handle).2.Distinct := by
  rcases s.release_state handle with ⟨-, same⟩ | ⟨r, -, all, tracked⟩
  · rwa [same]
  · refine ⟨tracked ▸ distinct.once, ?_⟩
    rw [tracked, all, List.length_set]
    exact distinct.below

theorem releaseAll (s : OpenResources) : s.releaseAll.2.Distinct := ⟨List.nodup_nil, fun _ inside => nomatch inside⟩

end Distinct

end OpenResources

/-- Whatever is open is tracked, or it was open at first without being tracked. -/
def OpenResources.Tracking (first s : OpenResources) : Prop :=
  ∀ k, s.isOpen k = true → k ∈ s.tracked ∨ first.isOpen k = true ∧ k ∉ first.tracked

namespace OpenResources.Tracking

variable {first s : OpenResources}

theorem refl (s : OpenResources) : s.Tracking s := fun k here => by
  by_cases tracked : k ∈ s.tracked
  · exact .inl tracked
  · exact .inr ⟨here, tracked⟩

theorem track (tracking : first.Tracking s) (name : String) (hook : Option (Except ExportError Unit)) :
    first.Tracking (s.track name hook).2 := by
  intro k here
  rw [isOpen_track, Bool.or_eq_true, beq_iff_eq] at here
  rw [tracked_track, List.mem_append, List.mem_filter, List.mem_singleton]
  rcases here with before | new
  · exact (tracking k before).imp_left fun tracked => .inl ⟨tracked, before⟩
  · exact .inl (.inr new)

theorem release (tracking : first.Tracking s) (handle : Nat) : first.Tracking (s.release handle).2 := by
  intro k here
  rw [isOpen_release, Bool.and_eq_true] at here
  rw [tracked_release]
  exact tracking k here.1

/-- After all were released, nothing is open that was not open at first without being tracked. -/
theorem releaseAll (tracking : first.Tracking s) (k : Nat) (here : s.releaseAll.2.isOpen k = true) :
    first.isOpen k = true ∧ k ∉ first.tracked := by
  rw [isOpen_releaseAll, Bool.and_eq_true, Bool.not_eq_true', List.contains_eq_mem, decide_eq_false_iff_not] at here
  exact (tracking k here.1).resolve_left here.2

end OpenResources.Tracking

namespace Feed

variable {ω α : Type} {first : OpenResources} {name : String} {feeds : Nat → Except ExportError (Feed ω α)}
  {wanted : α → Bool}

/-- To open a stream either tracks one that is read from then on, or leaves the resources and the stream as they are. -/
def Opens (open_ : Action (FeedState ω α × ω) Unit) : Prop :=
  ∀ s w, (∃ t name stream, open_.on (s, w) = (.ok (), t, w) ∧ t.resources = (s.resources.track name none).2 ∧
      t.current = some stream ∧ stream.handle = (s.resources.track name none).1) ∨
    ∃ e t, open_.on (s, w) = (.error e, t, w) ∧ t.resources = s.resources ∧ t.current = s.current

theorem opens_openStream : Opens (openStream name feeds wanted) := by
  intro s w
  rw [openStream, ActionOf.on_of]
  simp only [Nat.add_sub_cancel]
  cases feeds s.calls with
  | error e => exact .inr ⟨e, _, rfl, rfl, rfl⟩
  | ok feed => exact .inl ⟨_, name ++ "#stream-" ++ toString (s.opened + 1), _, rfl, rfl, rfl, rfl⟩

theorem openStream_keeps (wanted : α → Bool) :
    (openStream name feeds wanted).Keeps fun s => first.Tracking s.1.resources := by
  rintro ⟨s, w⟩ tracking
  rcases opens_openStream s w with ⟨t, _, _, done, resources, -⟩ | ⟨_, t, failed, resources, -⟩
  · rw [done, resources]
    exact tracking.track _ _
  · rw [failed, resources]
    exact tracking

/-- Nothing is asked for without an open stream; an open one has ended and is released, or is read on. -/
theorem nextOf_cases (s : FeedState ω α) (w : ω) :
    ((∀ t ∈ s.current, s.resources.isOpen t.handle = false) ∧
      nextOf (s, w) = (.finished, { s with current := none }, w)) ∨
    ∃ t ∈ s.current, s.resources.isOpen t.handle = true ∧
      ((∃ v, nextOf (s, w) =
          (.finished, { s with current := none, resources := (s.resources.release t.handle).2 }, v)) ∨
        ∃ pull position v, pull ≠ .finished ∧
          nextOf (s, w) = (pull, { s with current := some { t with position } }, v)) := by
  cases current : s.current with
  | none =>
      refine .inl ⟨fun t inside => absurd inside (Option.not_mem_none t), ?_⟩
      obtain ⟨_, _, _, _⟩ := s
      cases current
      rfl
  | some t =>
      cases isOpen : s.resources.isOpen t.handle with
      | false =>
          refine .inl ⟨fun u inside => Option.some.inj inside ▸ isOpen, ?_⟩
          simp only [nextOf, current, isOpen, Bool.false_eq_true, if_false]
      | true =>
          refine .inr ⟨t, rfl, isOpen, ?_⟩
          obtain ⟨pull, position, v, read⟩ :
            ∃ pull position v, advance t.wanted t.feed (t.feed.patience + 1) t.position w = (pull, position, v) :=
            ⟨_, _, _, rfl⟩
          simp only [nextOf, current, isOpen, if_true, read]
          cases pull with
          | finished => exact .inl ⟨v, rfl⟩
          | entity a => exact .inr ⟨.entity a, position, v, nofun, rfl⟩
          | fault e => exact .inr ⟨.fault e, position, v, nofun, rfl⟩

theorem nextOf_keeps (s : FeedState ω α × ω) (tracking : first.Tracking s.1.resources) :
    first.Tracking (nextOf s).2.1.resources := by
  rcases nextOf_cases s.1 s.2 with ⟨-, ended⟩ | ⟨t, -, -, ⟨_, ended⟩ | ⟨_, _, _, -, read⟩⟩
  · rw [ended]
    exact tracking
  · rw [ended]
    exact tracking.release t.handle
  · rw [read]
    exact tracking

end Feed

end SheetExport
