import SheetExport.Pattern.Engine
import SheetExport.Proofs.Filter.Selection
import SheetExport.Proofs.Source.Resources

/-! # What a filtered stream hands out

A stream over a feed hands out the faults of the feed and the entities that are wanted, in their order, and then nothing
any more. Which entities are wanted is what the filter selects by their fields, or all of them if nobody knows fields.
-/

namespace SheetExport

variable {σ ω α : Type}

/-- What a source answers when it is asked for the next entity again and again. -/
def Source.answers (source : Source σ ω α) : Nat → σ × ω → List (Pull α) × (σ × ω)
  | 0, s => ([], s)
  | n + 1, s =>
      let (pull, s) := source.next s
      let (rest, s) := source.answers n s
      (pull :: rest, s)

/-- What is handed out for an item of a feed. -/
def Pull.ofItem : Except ExportError α → Pull α
  | .ok a => .entity a
  | .error e => .fault e

namespace Filter

variable [RegexEngine]

/-- A source with the filter is to hand out the entity. One that knows no fields hands out all. -/
def Wants (f : Filter) (fields : Option (α → String → Option CellValue)) (a : α) : Prop :=
  ∀ field ∈ fields, f.Selects (field a)

/-- A source with the filter is to hand out the item. -/
def Admits (f : Filter) (fields : Option (α → String → Option CellValue)) : Except ExportError α → Prop
  | .ok a => f.Wants fields a
  | .error _ => True

instance (f : Filter) (fields : Option (α → String → Option CellValue)) (a : α) : Decidable (f.Wants fields a) :=
  inferInstanceAs (Decidable (∀ field ∈ fields, f.Selects (field a)))

instance (f : Filter) (fields : Option (α → String → Option CellValue)) :
    (item : Except ExportError α) → Decidable (f.Admits fields item)
  | .ok a => inferInstanceAs (Decidable (f.Wants fields a))
  | .error _ => inferInstanceAs (Decidable True)

end Filter

namespace Feed

/-- The feed has these items from a position on. -/
def HasFrom (feed : Feed ω α) (p : Nat) (items : List (Except ExportError α)) : Prop :=
  ∀ i item, items[i]? = some item → feed.item (p + i) = some item

/-- What a stream over a feed hands out. -/
def hands (wanted : α → Bool) : Except ExportError α → Bool
  | .ok a => wanted a
  | .error _ => true

variable {feed : Feed ω α} {wanted : α → Bool} {p : Nat} {items run : List (Except ExportError α)}
  {x : Except ExportError α} {s : FeedState ω α} {handle : Nat}

theorem HasFrom.cons (has : feed.HasFrom p (x :: items)) : feed.item p = some x ∧ feed.HasFrom (p + 1) items := by
  refine ⟨has 0 x rfl, fun i item inside => ?_⟩
  rw [Nat.add_assoc, Nat.add_comm 1]
  exact has (i + 1) item inside

theorem HasFrom.append (has : feed.HasFrom p (run ++ items)) :
    feed.HasFrom p run ∧ feed.HasFrom (p + run.length) items := by
  refine ⟨fun i item inside => has i item ?_, fun i item inside => ?_⟩
  · rwa [List.getElem?_append_left (List.getElem?_eq_some_iff.mp inside).1]
  · rw [Nat.add_assoc]
    refine has _ item ?_
    rwa [List.getElem?_append_right (Nat.le_add_right _ _), Nat.add_sub_cancel_left]

/-- The search passes over whatever is not handed out. -/
theorem advance_over (has : feed.HasFrom p run) (passed : ∀ x ∈ run, hands wanted x = false) (n : Nat) (w : ω) :
    ∃ v, advance wanted feed (n + run.length) p w = advance wanted feed n (p + run.length) v := by
  induction run generalizing p w with
  | nil => exact ⟨w, rfl⟩
  | cons x run ih =>
      obtain ⟨here, has⟩ := has.cons
      obtain ⟨unwanted, passed⟩ := List.forall_mem_cons.mp passed
      obtain ⟨v, found⟩ := ih has passed (feed.effect p w)
      refine ⟨v, ?_⟩
      cases x with
      | error e => cases unwanted
      | ok a =>
          rw [List.length_cons, ← Nat.add_assoc, advance, here]
          simp only [show wanted a = false from unwanted, Bool.false_eq_true, if_false]
          rw [found, Nat.add_right_comm, Nat.add_assoc]

/-- A stream over the feed is read on from a position. -/
def IsAt (feed : Feed ω α) (wanted : α → Bool) (p : Nat) (s : FeedState ω α) : Prop :=
  ∃ handle, s.current = some ⟨feed, p, handle, wanted⟩ ∧ s.resources.isOpen handle = true

theorem advance_hands (here : feed.item p = some x) (handed : hands wanted x = true) (n : Nat) (w : ω) :
    advance wanted feed (n + 1) p w = (.ofItem x, p + 1, feed.effect p w) := by
  rw [advance, here]
  cases x with
  | error e => rfl
  | ok a => exact if_pos handed

theorem advance_ends (ended : feed.item p = none) (n : Nat) (w : ω) :
    advance wanted feed (n + 1) p w = (.finished, p, feed.effect p w) := by
  rw [advance, ended]

/-- More patience changes no answer: either all that the search sees are entities that it passes over, or it comes to
    the same with more of it. -/
theorem advance_patient (wanted : α → Bool) (feed : Feed ω α) (n p : Nat) (w : ω) :
    (∀ i, i < n → ∃ a, feed.item (p + i) = some (.ok a) ∧ wanted a = false) ∨
      ∀ more, advance wanted feed (n + more) p w = advance wanted feed n p w := by
  induction n generalizing p w with
  | zero => exact .inl fun i lt => absurd lt (Nat.not_lt_zero i)
  | succ n ih =>
      simp only [Nat.add_right_comm n 1]
      cases here : feed.item p with
      | none => exact .inr fun more => (advance_ends here _ w).trans (advance_ends here n w).symm
      | some x =>
          by_cases handed : hands wanted x = true
          · exact .inr fun more => (advance_hands here handed _ w).trans (advance_hands here handed n w).symm
          · obtain ⟨a, rfl, unwanted⟩ : ∃ a, x = .ok a ∧ wanted a = false := by
              cases x with
              | error e => exact absurd rfl handed
              | ok a => exact ⟨a, rfl, Bool.eq_false_iff.mpr handed⟩
            rcases ih (p + 1) (feed.effect p w) with worn | same
            · refine .inl fun i lt => ?_
              cases i with
              | zero => exact ⟨a, here, unwanted⟩
              | succ i =>
                  have seen := worn i (Nat.lt_of_succ_lt_succ lt)
                  rwa [Nat.add_assoc, Nat.add_comm 1] at seen
            · refine .inr fun more => ?_
              simp only [advance, here, unwanted, Bool.false_eq_true, if_false, same more]

/-- The stream hands out the next item that it is to hand out, if the ones before it do not go beyond its patience. -/
theorem nextOf_hands (here : feed.IsAt wanted p s) (has : feed.HasFrom p (run ++ x :: items))
    (passed : ∀ x ∈ run, hands wanted x = false) (handed : hands wanted x = true)
    (patient : run.length ≤ feed.patience) (w : ω) :
    ∃ t v, nextOf (s, w) = (.ofItem x, t, v) ∧ feed.IsAt wanted (p + run.length + 1) t := by
  obtain ⟨handle, current, isOpen⟩ := here
  obtain ⟨v, found⟩ := advance_over has.append.1 passed (feed.patience - run.length + 1) w
  rw [Nat.add_right_comm, Nat.sub_add_cancel patient, advance_hands has.append.2.cons.1 handed] at found
  refine ⟨{ s with current := some ⟨feed, p + run.length + 1, handle, wanted⟩ }, feed.effect (p + run.length) v, ?_,
    handle, rfl, isOpen⟩
  simp only [nextOf, current, isOpen, if_true, found]
  cases x <;> rfl

/-- The stream has ended where the feed has. -/
theorem nextOf_ends (here : feed.IsAt wanted p s) (has : feed.HasFrom p run)
    (passed : ∀ x ∈ run, hands wanted x = false) (patient : run.length ≤ feed.patience)
    (ended : feed.item (p + run.length) = none) (w : ω) :
    ∃ t v, nextOf (s, w) = (.finished, t, v) ∧ t.current = none := by
  obtain ⟨handle, current, isOpen⟩ := here
  obtain ⟨v, found⟩ := advance_over has passed (feed.patience - run.length + 1) w
  rw [Nat.add_right_comm, Nat.sub_add_cancel patient, advance_ends ended] at found
  refine ⟨{ s with current := none, resources := (s.resources.release handle).2 }, feed.effect (p + run.length) v, ?_,
    rfl⟩
  simp only [nextOf, current, isOpen, if_true, found]

section Answers

variable {source : Source (FeedState ω α) ω α} (reads : source.next = nextOf)
include reads

/-- Where there is no stream to be read, nothing is asked for, however often. -/
theorem answers_ended (ended : s.current = none) (n : Nat) (w : ω) :
    source.answers n (s, w) = (List.replicate n .finished, s, w) := by
  induction n with
  | zero => rfl
  | succ n ih =>
      have next : nextOf (s, w) = (.finished, s, w) := by rw [nextOf, ended]
      rw [Source.answers, reads, next]
      simp only [ih, List.replicate_succ]

/-- A stream hands out what it is to hand out of the items up to some place, and nothing any more if they are all. -/
theorem answers_reading (here : feed.IsAt wanted p s) (has : feed.HasFrom p items)
    (patient : ∀ run, run <:+: items → (∀ x ∈ run, hands wanted x = false) → run.length ≤ feed.patience)
    {n : Nat} (last : n = 0 ∨ feed.item (p + items.length) = none) (w : ω) :
    (source.answers ((items.filter (hands wanted)).length + n) (s, w)).1 =
      (items.filter (hands wanted)).map .ofItem ++ List.replicate n .finished := by
  -- On what is handed out: in front of each of these items is a run that the search passes over.
  generalize handed : items.filter (hands wanted) = kept
  induction kept generalizing items p s w with
  | nil =>
      have passed (x : Except ExportError α) (inside : x ∈ items) : hands wanted x = false :=
        Bool.eq_false_iff.mpr (List.filter_eq_nil_iff.mp handed x inside)
      cases n with
      | zero => rfl
      | succ n =>
          obtain ⟨t, v, next, ended⟩ := nextOf_ends here has passed (patient items List.infix_rfl passed)
            (last.resolve_left (Nat.succ_ne_zero n)) w
          rw [List.length_nil, Nat.zero_add, Source.answers, reads, next]
          simp only [answers_ended reads ended]
          rfl
  | cons x kept ih =>
      obtain ⟨run, rest, rfl, passed, hand, others⟩ := List.filter_eq_cons_iff.mp handed
      have passed (x : Except ExportError α) (inside : x ∈ run) : hands wanted x = false :=
        Bool.eq_false_iff.mpr (passed x inside)
      obtain ⟨t, v, next, there⟩ := nextOf_hands here has passed hand
        (patient run (List.prefix_append run _).isInfix passed) w
      have behind := ih there has.append.2.cons.2
        (fun inner inside => patient inner
          (inside.trans ((List.suffix_cons x rest).trans (List.suffix_append run _)).isInfix))
        (last.imp_right fun ended => by rw [← ended]; congr 1; simp; omega) v others
      rw [List.length_cons, Nat.add_right_comm, Source.answers, reads, next]
      simp only [behind]
      rfl

end Answers

/-- A stream that was opened is read from the first item on. -/
theorem openStream_isAt {feeds : Nat → Except ExportError (Feed ω α)} (there : feeds s.calls = .ok feed) (name : String)
    (wanted : α → Bool) (w : ω) :
    ∃ t, (openStream name feeds wanted).on (s, w) = (.ok (), t, w) ∧ feed.IsAt wanted 0 t := by
  rw [openStream, ActionOf.on_of]
  simp only [Nat.add_sub_cancel, there]
  refine ⟨_, rfl, s.resources.all.length, rfl, ?_⟩
  rw [OpenResources.isOpen_track, OpenResources.track, beq_self_eq_true, Bool.or_true]

/-- A feed of finitely many items has them, and has the patience to look through them all. -/
theorem prepend_nil (ω : Type) (items : Array (Except ExportError α)) :
    let feed : Feed ω α := prepend items nil
    feed.HasFrom 0 items.toList ∧ feed.item items.toList.length = none ∧
      ∀ run, run <:+: items.toList → run.length ≤ feed.patience := by
  refine ⟨fun i item inside => ?_, ?_, fun run inside => inside.length_le⟩
  · rw [Array.getElem?_toList] at inside
    obtain ⟨below, rfl⟩ := Array.getElem?_eq_some_iff.mp inside
    simp [prepend, below]
  · simp [prepend, nil]

/-! ## Streams of what a filter selects -/

section Filtered

variable [RegexEngine] {f g : Filter} {fields : Option (α → String → Option CellValue)} {key : String}

theorem hands_wants (f : Filter) (fields : Option (α → String → Option CellValue)) :
    hands (fun a => decide (f.Wants fields a)) = fun x => decide (f.Admits fields x) := by
  funext x
  cases x with
  | ok a => rfl
  | error e => rfl

/-- A stream for a filter that is not refused is one of what the filter wants. -/
theorem streamMatching_valid (valid : f.check = .ok ()) (name : String) (feeds : Nat → Except ExportError (Feed ω α))
    (fields : Option (α → String → Option CellValue)) :
    (source name feeds fields).streamMatching f = openStream name feeds fun a => decide (f.Wants fields a) := by
  obtain ⟨tests, compiled⟩ := Filter.exists_compile valid
  cases fields with
  | none =>
      have all : (fun a : α => decide (f.Wants none a)) = fun _ => true :=
        funext fun a => decide_eq_true fun _ known => absurd known (Option.not_mem_none _)
      simp only [source, compiled, all]
  | some fields =>
      have passing : (fun a => Filter.passes tests (fields a)) = fun a => decide (f.Wants (some fields) a) := by
        funext a
        rw [Bool.eq_iff_iff, Filter.passes_iff compiled, decide_eq_true_iff]
        exact ⟨fun selects _ known => Option.mem_some.mp known ▸ selects, fun all => all fields rfl⟩
      simp only [source, compiled, passing]

theorem wants_perm (same : g.conditions.Perm f.conditions) (a : α) : g.Wants fields a ↔ f.Wants fields a :=
  forall_congr' fun _ => forall_congr' fun _ => Filter.selects_perm same

theorem admits_of_insert (new : key ∉ f.keys) {value : FilterValue} {x : Except ExportError α}
    (admits : (f.insert key value).Admits fields x) : f.Admits fields x := by
  cases x with
  | ok a => exact fun field known => Filter.selects_of_insert new (admits field known)
  | error e => trivial

/-- What a stream for a filter that is not refused hands out of some items that come one after another. -/
theorem streamMatching_hands (valid : f.check = .ok ()) (name : String)
    (fields : Option (α → String → Option CellValue)) {feeds : Nat → Except ExportError (Feed ω α)}
    (there : feeds s.calls = .ok feed) (w : ω) :
    ∃ t, ((source name feeds fields).streamMatching f).on (s, w) = (.ok (), t, w) ∧
      ∀ items n, feed.HasFrom 0 items → n = 0 ∨ feed.item items.length = none →
        (∀ run, run <:+: items → (run.filter fun x => f.Admits fields x) = [] → run.length ≤ feed.patience) →
        ((source name feeds fields).answers ((items.filter fun x => f.Admits fields x).length + n) (t, w)).1 =
          (items.filter fun x => f.Admits fields x).map .ofItem ++ List.replicate n .finished := by
  obtain ⟨t, opens, here⟩ := openStream_isAt there name (fun a => decide (f.Wants fields a)) w
  refine ⟨t, by rw [streamMatching_valid valid, opens], fun items n has last patient => ?_⟩
  rw [← hands_wants]
  refine answers_reading rfl here has (fun run inside passed => patient run inside ?_) (by rwa [Nat.zero_add]) w
  rw [hands_wants] at passed
  exact List.filter_eq_nil_iff.mpr fun x inside => Bool.eq_false_iff.mp (passed x inside)

/-- For a filter that is not refused, a source hands out the faults and the entities that the filter selects, in their
    order and nothing else, and no more after the last item: of any items that come one after another, if what is passed
    over between them does not wear out the patience, and so of any finite sequence. If it knows no fields, it hands out
    all. The order of the conditions does not matter, and a condition under a new key only takes away. -/
theorem source_hands_selected (name : String) (feeds : Nat → Except ExportError (Feed ω α))
    (fields : Option (α → String → Option CellValue)) (f : Filter) (valid : f.check = .ok ()) :
    let filtered := source name feeds fields
    let admitted (items : List (Except ExportError α)) := items.filter fun x => f.Admits fields x
    (∀ s w feed, feeds s.calls = .ok feed → ∃ t, (filtered.streamMatching f).on (s, w) = (.ok (), t, w) ∧
      ∀ items n, feed.HasFrom 0 items → n = 0 ∨ feed.item items.length = none →
        (∀ run, run <:+: items → admitted run = [] → run.length ≤ feed.patience) →
        (filtered.answers ((admitted items).length + n) (t, w)).1 =
          (admitted items).map .ofItem ++ List.replicate n .finished) ∧
    (∀ s w items, feeds s.calls = .ok (prepend items nil) →
      ∃ t, (filtered.streamMatching f).on (s, w) = (.ok (), t, w) ∧ ∀ n,
        (filtered.answers ((admitted items.toList).length + n) (t, w)).1 =
        (admitted items.toList).map .ofItem ++ List.replicate n .finished) ∧
    (fields = none → ∀ items, admitted items = items) ∧
    (∀ g : Filter, g.conditions.Perm f.conditions → filtered.streamMatching g = filtered.streamMatching f) ∧
    ∀ key ∉ f.keys, ∀ value items,
      List.Sublist (items.filter fun x => (f.insert key value).Admits fields x) (admitted items) := by
  intro filtered admitted
  refine ⟨fun s w feed there => streamMatching_hands valid name fields there w, fun s w items there => ?_,
    fun unknown items => ?_, fun g same => ?_, fun key new value items => ?_⟩
  · obtain ⟨t, opens, answers⟩ := streamMatching_hands valid name fields there w
    obtain ⟨has, ended, patient⟩ := prepend_nil ω items
    exact ⟨t, opens, fun n => answers items.toList n has (.inr ended) fun run inside _ => patient run inside⟩
  · refine List.filter_eq_self.mpr fun x _ => decide_eq_true ?_
    subst unknown
    cases x with
    | ok a => exact fun _ known => absurd known (Option.not_mem_none _)
    | error e => trivial
  · rw [streamMatching_valid valid, streamMatching_valid ((Filter.check_perm same).mpr valid)]
    simp only [wants_perm same]
  · have twice : (items.filter fun x => (f.insert key value).Admits fields x) =
        (admitted items).filter fun x => (f.insert key value).Admits fields x := by
      rw [List.filter_filter]
      refine List.filter_congr fun x _ => ?_
      rw [← Bool.decide_and, decide_eq_decide]
      exact ⟨fun admits => ⟨admits, admits_of_insert new admits⟩, And.left⟩
    rw [twice]
    exact List.filter_sublist

end Filtered

/-- The numbers from four on. -/
def fromFour : Filter := .ofList [("n", .predicate (.within ⟨none, some (.int 4), none, none⟩))]

/-- Of three numbers and a fault, the first number is passed over. -/
theorem source_hands_selected_fromFour :
    let gone := ExportError.dataSource none "gone" none
    let feed : Feed Unit Int := prepend #[.ok 3, .error gone, .ok 8, .ok 4] nil
    let numbers := source "numbers" (fun _ => .ok feed) (some fun n key => if key = "n" then some (.int n) else none)
    ∃ t, (numbers.streamMatching fromFour).on (.initial, ()) = (.ok (), t, ()) ∧
      (numbers.answers 5 (t, ())).1 = [.fault gone, .entity 8, .entity 4, .finished, .finished] := by
  intro gone feed numbers
  obtain ⟨-, whole, -⟩ := source_hands_selected "numbers" (fun _ => .ok feed)
    (some fun n key => if key = "n" then some (.int n) else none) fromFour rfl
  obtain ⟨t, opens, answers⟩ := whole .initial () _ rfl
  exact ⟨t, opens, answers 2⟩

end Feed

end SheetExport
