import SheetExport.Proofs.Source.Resources

/-! # Resources that are released once

However resources are tracked and released, the hook of each runs when it is released for the first time, and then never
again. What is open is known from what was done with the resources alone (`ResourceUse.Released`): whatever was tracked
and not released since. To release all that is left runs the remaining hooks in the order of the tracking.
-/

namespace SheetExport

/-- What may be done with resources. All copies of a handle are the same handle. -/
inductive ResourceUse where
  | track (name : String) (hook : Option (Except ExportError Unit))
  | release (handle : Nat)
  | releaseAll

/-- What is answered. -/
inductive ResourceAnswer where
  | tracked (handle : Nat)
  | released (outcome : Except ExportError Unit)
  | allReleased (count : Nat)

namespace OpenResources

def use (s : OpenResources) : ResourceUse → ResourceAnswer × OpenResources
  | .track name hook => (.tracked (s.track name hook).1, (s.track name hook).2)
  | .release handle => (.released (s.release handle).1, (s.release handle).2)
  | .releaseAll => (.allReleased s.releaseAll.1, s.releaseAll.2)

/-- The resources after some uses, one after another. -/
def after (uses : List ResourceUse) : OpenResources := uses.foldl (fun s u => (s.use u).2) empty

end OpenResources

namespace ResourceUse

/-- The hooks of what was tracked. The handle of a resource is its place here. -/
def hooks (uses : List ResourceUse) : List (Option (Except ExportError Unit)) :=
  uses.filterMap fun
    | track _ hook => some hook
    | _ => none

/-- The use releases a resource, if there is one under that handle. -/
def frees : ResourceUse → Nat → Bool
  | track _ _, _ => false
  | release handle, k => handle == k
  | releaseAll, _ => true

/-- After the resource was tracked, it was released by its handle or together with all others. -/
def Released (uses : List ResourceUse) (k : Nat) : Prop :=
  ∃ place < uses.length, k < (hooks (uses.take place)).length ∧ uses[place]?.any (frees · k) = true

instance (uses : List ResourceUse) (k : Nat) : Decidable (Released uses k) :=
  inferInstanceAs (Decidable (∃ place < uses.length, _))

variable {uses : List ResourceUse} {u : ResourceUse} {k : Nat}

theorem released_concat : Released (uses ++ [u]) k ↔ Released uses k ∨ k < (hooks uses).length ∧ u.frees k = true := by
  constructor
  · rintro ⟨place, inside, given, freed⟩
    rw [List.length_append, List.length_singleton] at inside
    rcases Nat.lt_succ_iff_lt_or_eq.mp inside with before | rfl
    · rw [List.take_append_of_le_length (Nat.le_of_lt before)] at given
      rw [List.getElem?_append_left before] at freed
      exact .inl ⟨place, before, given, freed⟩
    · rw [List.take_left' rfl] at given
      exact .inr ⟨given, by simpa using freed⟩
  · rintro (⟨place, before, given, freed⟩ | ⟨given, freed⟩)
    · refine ⟨place, by simp; omega, ?_, ?_⟩
      · rwa [List.take_append_of_le_length (Nat.le_of_lt before)]
      · rwa [List.getElem?_append_left before]
    · exact ⟨uses.length, by simp, by simpa using given, by simpa using freed⟩

theorem lt_of_released (released : Released uses k) : k < (hooks uses).length := by
  obtain ⟨place, -, given, -⟩ := released
  refine Nat.lt_of_lt_of_le given ?_
  have earlier : (uses.take place ++ uses.drop place).filterMap _ = hooks uses := congrArg _ (List.take_append_drop _ _)
  rw [List.filterMap_append] at earlier
  exact earlier ▸ List.length_append ▸ Nat.le_add_right _ _

theorem hooks_concat_track (uses : List ResourceUse) (name : String) (hook : Option (Except ExportError Unit)) :
    hooks (uses ++ [track name hook]) = hooks uses ++ [hook] := by
  simp [hooks]

theorem hooks_concat_release (uses : List ResourceUse) (handle : Nat) :
    hooks (uses ++ [release handle]) = hooks uses := by
  simp [hooks]

theorem hooks_concat_releaseAll (uses : List ResourceUse) : hooks (uses ++ [releaseAll]) = hooks uses := by
  simp [hooks]

end ResourceUse

namespace OpenResources

variable {s : OpenResources} {handle k : Nat}

/-- The hook of a resource, if it has one. -/
def hookOf (s : OpenResources) (k : Nat) : Option (Except ExportError Unit) := (s.all.map Resource.hook)[k]?.join

theorem lt_of_isOpen (here : s.isOpen k = true) : k < s.all.length := by
  rw [isOpen, Option.any_eq_true] at here
  obtain ⟨r, there, -⟩ := here
  exact (List.getElem?_eq_some_iff.mp there).1

/-! ## One release -/

/-- A release either finds nothing open, or runs the hook of what is open and yields its outcome. -/
theorem release_cases (s : OpenResources) (handle : Nat) :
    (s.isOpen handle = false ∧ s.release handle = (.ok (), s)) ∨
      (s.isOpen handle = true ∧ (s.release handle).1 = (s.hookOf handle).getD (.ok ()) ∧
        (s.release handle).2.hooksRun = s.hooksRun ++ if (s.hookOf handle).isSome then [handle] else []) := by
  cases there : s.all[handle]? with
  | none => exact .inl ⟨by rw [isOpen, there]; rfl, by rw [release, there]⟩
  | some r =>
      have hook : s.hookOf handle = r.hook := by rw [hookOf, List.getElem?_map, there]; rfl
      cases released : r.released with
      | true => exact .inl ⟨by simp [isOpen, there, released], by simp [release, there, released]⟩
      | false =>
          refine .inr ⟨by simp [isOpen, there, released], ?_⟩
          rw [hook]
          simp only [release, there, released, Bool.false_eq_true, if_false]
          cases r.hook with
          | none => exact ⟨rfl, (List.append_nil _).symm⟩
          | some outcome => exact ⟨rfl, rfl⟩

theorem release_outcome (s : OpenResources) (handle : Nat) :
    (s.release handle).1 = if s.isOpen handle then (s.hookOf handle).getD (.ok ()) else .ok () := by
  rcases s.release_cases handle with ⟨gone, same⟩ | ⟨here, outcome, -⟩
  · rw [gone, same]
    rfl
  · rw [here, outcome]
    rfl

theorem hooksRun_release (s : OpenResources) (handle : Nat) :
    (s.release handle).2.hooksRun =
      s.hooksRun ++ if s.isOpen handle && (s.hookOf handle).isSome then [handle] else [] := by
  rcases s.release_cases handle with ⟨gone, same⟩ | ⟨here, -, run⟩
  · rw [gone, same]
    exact (List.append_nil _).symm
  · rw [here, run]
    rfl

/-- No hook is lost or changed. -/
theorem hooks_release (s : OpenResources) (handle : Nat) :
    (s.release handle).2.all.map Resource.hook = s.all.map Resource.hook := by
  rcases s.release_state handle with ⟨-, same⟩ | ⟨r, there, all, -⟩
  · rw [same]
  · rw [all, List.map_set]
    refine List.ext_getElem? fun k => ?_
    by_cases same : handle = k
    · subst same
      rw [List.getElem?_set_self (by simpa using (List.getElem?_eq_some_iff.mp there).1), List.getElem?_map, there]
      rfl
    · rw [List.getElem?_set_ne same]

theorem hookOf_release (s : OpenResources) (handle k : Nat) : (s.release handle).2.hookOf k = s.hookOf k := by
  rw [hookOf, hooks_release, hookOf]

/-! ## Releasing all -/

theorem hooks_foldl_release (handles : List Nat) (s : OpenResources) :
    (handles.foldl (fun s h => (s.release h).2) s).all.map Resource.hook = s.all.map Resource.hook := by
  induction handles generalizing s with
  | nil => rfl
  | cons h rest ih => rw [List.foldl_cons, ih, hooks_release]

/-- To release some resources that are open, each once, runs their hooks in that order. -/
theorem hooksRun_foldl_release (handles : List Nat) (s : OpenResources) (once : handles.Nodup)
    (open_ : ∀ h ∈ handles, s.isOpen h = true) :
    (handles.foldl (fun s h => (s.release h).2) s).hooksRun =
      s.hooksRun ++ handles.filter fun h => (s.hookOf h).isSome := by
  induction handles generalizing s with
  | nil => exact (List.append_nil _).symm
  | cons h rest ih =>
      obtain ⟨new, once⟩ := List.nodup_cons.mp once
      -- One release leaves the others open, since none of them comes twice.
      have stillOpen : ∀ k ∈ rest, (s.release h).2.isOpen k = true := by
        intro k inside
        have other : k ≠ h := fun same => new (same ▸ inside)
        rw [isOpen_release, open_ k (List.mem_cons_of_mem h inside), bne_iff_ne.mpr other]
        rfl
      rw [List.foldl_cons, ih _ once stillOpen, hooksRun_release, open_ h List.mem_cons_self, Bool.true_and]
      simp only [hookOf_release, List.append_assoc, List.filter_cons]
      split <;> rfl

/-- What is tracked and open is all that is open, in the order of the tracking. -/
def InOrder (s : OpenResources) : Prop := s.tracked.filter s.isOpen = (List.range s.all.length).filter s.isOpen

theorem InOrder.mem_tracked (order : s.InOrder) (here : s.isOpen k = true) : k ∈ s.tracked := by
  have inside : k ∈ (List.range s.all.length).filter s.isOpen :=
    List.mem_filter.mpr ⟨List.mem_range.mpr (lt_of_isOpen here), here⟩
  rw [← order] at inside
  exact (List.mem_filter.mp inside).1

theorem InOrder.isOpen_releaseAll (order : s.InOrder) (k : Nat) : s.releaseAll.2.isOpen k = false := by
  rw [OpenResources.isOpen_releaseAll]
  cases here : s.isOpen k with
  | false => rfl
  | true => simp [order.mem_tracked here]

theorem InOrder.releaseAll_count (order : s.InOrder) :
    s.releaseAll.1 = ((List.range s.all.length).filter s.isOpen).length := by
  rw [← order]
  rfl

theorem InOrder.hooksRun_releaseAll (order : s.InOrder) :
    s.releaseAll.2.hooksRun = s.hooksRun ++
      ((List.range s.all.length).filter s.isOpen).filter fun k => (s.hookOf k).isSome := by
  rw [← order]
  refine hooksRun_foldl_release _ s ?_ fun h inside => (List.mem_filter.mp inside).2
  rw [order]
  exact List.nodup_range.filter _

namespace InOrder

theorem track (order : s.InOrder) (name : String) (hook : Option (Except ExportError Unit)) :
    (s.track name hook).2.InOrder := by
  have before {handles : List Nat} (given : ∀ k ∈ handles, k < s.all.length) :
      handles.filter (s.track name hook).2.isOpen = handles.filter s.isOpen := by
    refine List.filter_congr fun k inside => ?_
    have old : (k == (s.track name hook).1) = false := beq_eq_false_iff_ne.mpr (Nat.ne_of_lt (given k inside))
    rw [isOpen_track, old, Bool.or_false]
  have length : (s.track name hook).2.all.length = s.all.length + 1 := List.length_append
  have tracked : s.tracked.filter s.isOpen = (List.range s.all.length).filter s.isOpen := order
  rw [InOrder, tracked_track, length, List.range_succ, List.filter_append, List.filter_append,
    before fun k inside => lt_of_isOpen (List.mem_filter.mp inside).2, before fun k => List.mem_range.mp,
    List.filter_filter, ← tracked]
  simp only [Bool.and_self]
  rfl

theorem release (order : s.InOrder) (handle : Nat) : (s.release handle).2.InOrder := by
  have length : (s.release handle).2.all.length = s.all.length := by
    simpa using congrArg List.length (s.hooks_release handle)
  have fewer (handles : List Nat) :
      handles.filter (s.release handle).2.isOpen = (handles.filter s.isOpen).filter (· != handle) := by
    rw [List.filter_filter]
    exact List.filter_congr fun k _ => by rw [isOpen_release, Bool.and_comm]
  rw [InOrder, tracked_release, length, fewer, fewer, order]

theorem releaseAll (order : s.InOrder) : s.releaseAll.2.InOrder := by
  have noneLeft : (List.range s.releaseAll.2.all.length).filter s.releaseAll.2.isOpen = [] :=
    List.filter_eq_nil_iff.mpr fun k _ => Bool.eq_false_iff.mp (order.isOpen_releaseAll k)
  rw [InOrder, noneLeft]
  rfl

end InOrder

/-! ## Many uses -/

open ResourceUse in
/-- Resources that are as some uses leave them. -/
structure Follows (uses : List ResourceUse) (s : OpenResources) : Prop where
  hooks : s.all.map Resource.hook = hooks uses
  open_ : ∀ k, s.isOpen k = true ↔ k < (ResourceUse.hooks uses).length ∧ ¬Released uses k
  order : s.InOrder
  ran : ∀ k, s.hooksRun.count k = if (s.hookOf k).isSome ∧ Released uses k then 1 else 0

namespace Follows

open ResourceUse

variable {uses : List ResourceUse}

theorem empty : Follows [] OpenResources.empty where
  hooks := rfl
  open_ k := by simp [ResourceUse.hooks, isOpen, OpenResources.empty]
  order := rfl
  ran k := by simp [hookOf, OpenResources.empty]

theorem length (follows : Follows uses s) : s.all.length = (ResourceUse.hooks uses).length := by
  simpa using congrArg List.length follows.hooks

theorem hookOf_eq (follows : Follows uses s) (k : Nat) : s.hookOf k = (ResourceUse.hooks uses)[k]?.join := by
  rw [hookOf, follows.hooks]

theorem track (follows : Follows uses s) (name : String) (hook : Option (Except ExportError Unit)) :
    Follows (uses ++ [.track name hook]) (s.track name hook).2 := by
  have hooks : (s.track name hook).2.all.map Resource.hook = ResourceUse.hooks (uses ++ [.track name hook]) := by
    rw [hooks_concat_track, ← follows.hooks]
    exact List.map_append
  have released (k : Nat) : Released (uses ++ [.track name hook]) k ↔ Released uses k := by
    simp [released_concat, frees]
  refine ⟨hooks, fun k => ?_, follows.order.track name hook, fun k => ?_⟩
  · have new : (s.track name hook).1 = (ResourceUse.hooks uses).length := follows.length
    rw [isOpen_track, released, hooks_concat_track, List.length_append, List.length_singleton, Bool.or_eq_true,
      follows.open_, beq_iff_eq, new]
    constructor
    · rintro (⟨before, kept⟩ | rfl)
      · exact ⟨by omega, kept⟩
      · exact ⟨by omega, fun released => absurd (lt_of_released released) (Nat.lt_irrefl _)⟩
    · rintro ⟨below, kept⟩
      rcases Nat.lt_succ_iff_lt_or_eq.mp below with before | same
      · exact .inl ⟨before, kept⟩
      · exact .inr same
  · refine (follows.ran k).trans ?_
    simp only [released]
    by_cases gone : Released uses k
    · have same : (s.track name hook).2.hookOf k = s.hookOf k := by
        rw [hookOf, hooks, follows.hookOf_eq, hooks_concat_track, List.getElem?_append_left (lt_of_released gone)]
      rw [same]
    · rw [if_neg fun both => gone both.2, if_neg fun both => gone both.2]

theorem release (follows : Follows uses s) (handle : Nat) :
    Follows (uses ++ [.release handle]) (s.release handle).2 := by
  have released (k : Nat) : Released (uses ++ [.release handle]) k ↔
      Released uses k ∨ k < (ResourceUse.hooks uses).length ∧ handle = k := by
    simp [released_concat, frees]
  refine ⟨?_, fun k => ?_, follows.order.release handle, fun k => ?_⟩
  · rw [hooks_release, follows.hooks, hooks_concat_release]
  · rw [isOpen_release, Bool.and_eq_true, follows.open_, bne_iff_ne, released, hooks_concat_release]
    grind
  · have here := follows.open_ handle
    have once : [handle].count k = if handle == k then 1 else 0 := List.count_singleton
    rw [hooksRun_release, List.count_append, follows.ran]
    simp only [hookOf_release, released]
    grind

theorem releaseAll (follows : Follows uses s) : Follows (uses ++ [.releaseAll]) s.releaseAll.2 := by
  have released (k : Nat) : Released (uses ++ [.releaseAll]) k ↔ k < (ResourceUse.hooks uses).length := by
    rw [released_concat]
    exact ⟨fun gone => gone.elim lt_of_released And.left, fun below => .inr ⟨below, rfl⟩⟩
  have hooks : s.releaseAll.2.all.map Resource.hook = s.all.map Resource.hook := hooks_foldl_release _ s
  refine ⟨?_, fun k => ?_, follows.order.releaseAll, fun k => ?_⟩
  · rw [hooks, follows.hooks, hooks_concat_releaseAll]
  · rw [follows.order.isOpen_releaseAll, released, hooks_concat_releaseAll]
    simp
  · have once : (((List.range s.all.length).filter s.isOpen).filter fun k => (s.hookOf k).isSome).Nodup :=
      (List.nodup_range.filter _).filter _
    have here := follows.open_ k
    have given : Released uses k → k < (ResourceUse.hooks uses).length := lt_of_released
    have same : s.releaseAll.2.hookOf k = s.hookOf k := by rw [hookOf, hooks, hookOf]
    rw [follows.order.hooksRun_releaseAll, List.count_append, follows.ran, List.Nodup.count once, same]
    simp only [List.mem_filter, List.mem_range, follows.length, released]
    grind

theorem use (follows : Follows uses s) (u : ResourceUse) : Follows (uses ++ [u]) (s.use u).2 := by
  cases u with
  | track name hook => exact follows.track name hook
  | release handle => exact follows.release handle
  | releaseAll => exact follows.releaseAll

theorem useAll {earlier : List ResourceUse} (follows : Follows earlier s) (uses : List ResourceUse) :
    Follows (earlier ++ uses) (uses.foldl (fun s u => (s.use u).2) s) := by
  induction uses generalizing earlier s with
  | nil => rwa [List.append_nil]
  | cons u later ih => rw [List.append_cons]; exact ih (follows.use u)

theorem after (uses : List ResourceUse) : Follows uses (OpenResources.after uses) := empty.useAll uses

end Follows

end OpenResources

open ResourceUse in
/-- Whatever is done with resources, the hook of each has run once if the resource was released, by its handle or with
    all others, and not at all before. What counts as open is what was tracked and not released. The first release
    of a resource yields the outcome of its hook, if it has one, and any later one succeeds. To release all runs the
    hooks that are left in the order in which they were tracked, whatever becomes of them, and yields how many
    resources were open; none is afterwards. -/
theorem resources_released_once (uses : List ResourceUse) :
    let s := OpenResources.after uses
    let hooks := hooks uses
    let left := (List.range hooks.length).filter fun k => ¬Released uses k
    (∀ k, s.hooksRun.count k = if hooks[k]?.join.isSome ∧ Released uses k then 1 else 0) ∧
    s.openCount = left.length ∧
    (∀ name hook, (s.use (.track name hook)).1 = .tracked hooks.length) ∧
    (∀ k, (s.use (.release k)).1 = .released (if Released uses k then .ok () else hooks[k]?.join.getD (.ok ()))) ∧
    (s.use .releaseAll).1 = .allReleased left.length ∧
    (s.use .releaseAll).2.hooksRun = s.hooksRun ++ left.filter (fun k => hooks[k]?.join.isSome) ∧
    (s.use .releaseAll).2.openCount = 0 := by
  intro s hooks left
  have follows : s.Follows uses := .after uses
  have open_ : (List.range s.all.length).filter s.isOpen = left := by
    rw [follows.length]
    refine List.filter_congr fun k inside => ?_
    have here := follows.open_ k
    rw [← Bool.coe_iff_coe]
    simpa [List.mem_range.mp inside] using here
  refine ⟨fun k => ?_, ?_, fun name hook => ?_, fun k => ?_, ?_, ?_, rfl⟩
  · rw [follows.ran, follows.hookOf_eq]
  · rw [OpenResources.openCount, follows.order, open_]
  · exact congrArg ResourceAnswer.tracked follows.length
  · refine congrArg ResourceAnswer.released ((s.release_outcome k).trans ?_)
    rw [follows.hookOf_eq]
    have here := follows.open_ k
    by_cases gone : Released uses k
    · rw [if_pos gone, if_neg fun open_ => (here.mp open_).2 gone]
    · rw [if_neg gone]
      by_cases given : k < hooks.length
      · rw [if_pos (here.mpr ⟨given, gone⟩)]
      · rw [if_neg fun open_ => given (here.mp open_).1, List.getElem?_eq_none (Nat.le_of_not_lt given)]
        rfl
  · exact congrArg ResourceAnswer.allReleased (follows.order.releaseAll_count.trans (congrArg List.length open_))
  · refine follows.order.hooksRun_releaseAll.trans ?_
    simp only [open_, follows.hookOf_eq]
    rfl

/-- Of three hooks, the first runs for its handle, and the other two when all is released, though one of them fails. -/
example :
    let gone := Except.error (ExportError.dataSource none "gone" none)
    let s := OpenResources.after [.track "a" (some (.ok ())), .track "b" none, .track "c" (some gone), .release 0,
      .track "d" (some (.ok ())), .releaseAll]
    s.hooksRun = [0, 2, 3] ∧ s.openCount = 0 := by decide

end SheetExport
