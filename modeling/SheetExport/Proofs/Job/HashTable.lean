import SheetExport.Job.HashTable
import SheetExport.Proofs.Action
import SheetExport.Proofs.Keyed

/-! # Fields in stores of hashes

What calls do to the value of a field, as long as nothing expires. `Keeps` says it of any store of hashes. In the
table it holds because to drop what has expired is then to drop nothing that is looked at.
-/

namespace SheetExport

def overwritten (values : String → Option String) (fields : Fields) (field : String) : Option String :=
  (Keyed.find? fields.reverse field).or (values field)

/-- A store keeps the hashes that are `kept`: calls on such a hash succeed, read what was written and leave it kept. -/
structure HashStore.Keeps {σ : Type} (hashes : HashStore σ) (lifetime : Nat)
    (kept : String → (String → Option String) → σ → Prop) : Prop where
  putAll : ∀ {key values s}, kept key values s → ∀ fields,
    ∃ t, (hashes.putAll key fields).on s = (.ok (), t) ∧ kept key (overwritten values fields) t
  put : ∀ {key values s}, kept key values s → ∀ field value,
    ∃ t, (hashes.put key field value).on s = (.ok (), t) ∧ kept key (overwritten values [(field, value)]) t
  entries : ∀ {key values s}, kept key values s →
    ∃ fields t, (hashes.entries key).on s = (.ok fields, t) ∧ kept key values t ∧
      ∀ field, fields.find? field = values field
  find? : ∀ {key values s}, kept key values s → ∀ field,
    ∃ t, (hashes.find? key field).on s = (.ok (values field), t) ∧ kept key values t
  contains : ∀ {key values s field text}, kept key values s → values field = some text →
    ∃ t, (hashes.contains key).on s = (.ok true, t) ∧ kept key values t
  expire : ∀ {key values s}, kept key values s →
    ∃ t, (hashes.expire key lifetime).on s = (.ok (), t) ∧ kept key values t

namespace HashTable

/-- What is kept under a key has not expired at a moment. -/
def LiveAt (t : HashTable) (key : String) (now : Moment) : Prop :=
  ∀ e, Keyed.find? t key = some e → e.isLive now = true

variable {t : HashTable} {key field : String} {now : Moment} {e : TableEntry}

instance : Decidable (t.LiveAt key now) :=
  decidable_of_iff ((Keyed.find? t key).all fun e => e.isLive now) (by
    rw [LiveAt, Option.all_eq_true])

theorem find?_prune (live : t.LiveAt key now) :
    Keyed.find? (t.prune now) key = Keyed.find? t key := by
  cases found : Keyed.find? t key with
  | some e => exact Keyed.find?_filter _ found (live e found)
  | none =>
      simp only [Keyed.find?, List.lookup_eq_none_iff] at found ⊢
      exact fun x member => found x (List.mem_filter.mp member).1

def value (t : HashTable) (key field : String) : Option String :=
  (Keyed.find? t key).bind fun e => e.fields.find? field

theorem value_prune (live : t.LiveAt key now) : value (t.prune now) key field = t.value key field := by
  rw [value, find?_prune live, value]

theorem value_write (t : HashTable) (key : String) (fields : Fields) (field : String) :
    (t.write key fields).value key field = (Keyed.find? fields.reverse field).or (t.value key field) := by
  rw [value, write, Keyed.find?_insert, if_pos rfl, Option.bind_some, Keyed.find?_insertAll, value]
  cases Keyed.find? t key <;> rfl

theorem value_schedule (t : HashTable) (key field : String) (expiresAt : Nat) :
    (t.schedule key expiresAt).value key field = t.value key field := by
  rw [schedule]
  cases found : Keyed.find? t key with
  | none => rfl
  | some e => simp only [value, Keyed.find?_insert, if_true, found, Option.bind_some]

theorem find?_write (t : HashTable) (key : String) (fields : Fields) (other : String) :
    Keyed.find? (t.write key fields) other =
      if other = key then some { (Keyed.find? t key).getD ⟨[], none⟩ with
        fields := ((Keyed.find? t key).getD ⟨[], none⟩).fields.insertAll fields }
      else Keyed.find? t other := by
  rw [write, Keyed.find?_insert]

theorem find?_schedule (t : HashTable) (key : String) (expiresAt : Nat) (other : String) :
    Keyed.find? (t.schedule key expiresAt) other =
      if other = key then (Keyed.find? t key).map fun e => { e with expiresAt := some expiresAt }
      else Keyed.find? t other := by
  rw [schedule]
  cases found : Keyed.find? t key with
  | some e => rw [Keyed.find?_insert]; rfl
  | none =>
      by_cases here : other = key
      · rw [if_pos here, here]
        exact found
      · exact (if_neg here).symm

theorem postpone_of_tells {lifetime : Nat} (tells : now.Tells lifetime) (t : HashTable) (key : String) :
    t.postpone now key lifetime = (.ok (), t.schedule key (now.elapsed + lifetime)) :=
  if_pos tells

/-- Whether or not a hash gets more time, the table is one in which it has been given some, or the same. -/
theorem postpone_cases (now : Moment) (key : String) (lifetime : Nat) (t : HashTable) :
    (t.postpone now key lifetime).2 = t.schedule key (now.elapsed + lifetime) ∨ (t.postpone now key lifetime).2 = t := by
  rw [postpone]
  split
  · exact .inl rfl
  · exact .inr rfl

theorem value_postpone (now : Moment) (t : HashTable) (key field : String) (lifetime : Nat) :
    (t.postpone now key lifetime).2.value key field = t.value key field := by
  rcases postpone_cases now key lifetime t with given | same
  · rw [given, value_schedule]
  · rw [same]

theorem unlike_postpone (unlike : (t.map Prod.fst).Nodup) (now : Moment) (key : String) (lifetime : Nat) :
    ((t.postpone now key lifetime).2.map Prod.fst).Nodup := by
  rcases postpone_cases now key lifetime t with given | same
  · rw [given, schedule]
    split
    · exact Keyed.unlike_insert unlike _ _
    · exact unlike
  · rwa [same]

/-! ## Tables from which nothing expires -/

/-- Nothing in the table has expired at a moment. -/
def Live (now : Moment) (t : HashTable) : Prop := ∀ x ∈ t, x.2.isLive now = true

instance : Decidable (t.Live now) := inferInstanceAs (Decidable (∀ x ∈ t, x.2.isLive now = true))

theorem prune_of_live (live : t.Live now) : t.prune now = t := List.filter_eq_self.mpr live

theorem live_prune (now : Moment) (t : HashTable) : (t.prune now).Live now :=
  fun _ inside => (List.mem_filter.mp inside).2

theorem find?_of_prune (unlike : (t.map Prod.fst).Nodup) (found : Keyed.find? (t.prune now) key = some e) :
    Keyed.find? t key = some e :=
  Keyed.find?_of_unlike unlike (List.mem_filter.mp (Keyed.mem_of_find? found)).1

/-- What is written has no time to go by yet, or keeps the time that it had. -/
theorem live_write (live : t.Live now) (key : String) (fields : Fields) : (t.write key fields).Live now := by
  intro x inside
  rw [write, Keyed.insert, List.mem_append, List.mem_singleton] at inside
  cases inside with
  | inl old => exact live x (List.mem_filter.mp old).1
  | inr new =>
      rw [new]
      cases found : Keyed.find? t key with
      | none => rfl
      | some e => exact live (key, e) (Keyed.mem_of_find? found)

/-! ## Calls -/

theorem on_find? (t : HashTable) (now : Moment) (key field : String) :
    (store.find? key field).on (t, now) = (.ok (value (t.prune now) key field), t.prune now, now) := rfl

theorem on_contains (t : HashTable) (now : Moment) (key : String) :
    (store.contains key).on (t, now) = (.ok (Keyed.find? (t.prune now) key).isSome, t.prune now, now) := rfl

theorem on_putAll_live (live : t.Live now) (key : String) (fields : Fields) :
    (store.putAll key fields).on (t, now) = (.ok (), t.write key fields, now) := by
  rw [← congrArg (write key fields) (prune_of_live live)]
  rfl

theorem on_expire (t : HashTable) (now : Moment) (key : String) (lifetime : Nat) :
    (store.expire key lifetime).on (t, now) =
      (((t.prune now).postpone now key lifetime).1, ((t.prune now).postpone now key lifetime).2, now) := rfl

theorem on_expire_live (live : t.Live now) (key : String) (lifetime : Nat) :
    (store.expire key lifetime).on (t, now) =
      ((t.postpone now key lifetime).1, (t.postpone now key lifetime).2, now) := by
  rw [on_expire, prune_of_live live]

theorem on_entries_live (live : t.Live now) (key : String) :
    (store.entries key).on (t, now) = (.ok (((Keyed.find? t key).map TableEntry.fields).getD []), t, now) := by
  rw [show (store.entries key).on (t, now) =
    (.ok (((Keyed.find? (t.prune now) key).map TableEntry.fields).getD []), t.prune now, now) from rfl,
    prune_of_live live]

theorem on_find?_live (live : t.Live now) (key field : String) :
    (store.find? key field).on (t, now) = (.ok (t.value key field), t, now) := by
  rw [on_find?, prune_of_live live]

theorem on_contains_live (live : t.Live now) (key : String) :
    (store.contains key).on (t, now) = (.ok (Keyed.find? t key).isSome, t, now) := by
  rw [on_contains, prune_of_live live]

/-! ## Hashes that are kept -/

/-- The hash under a key is in the table, has values in its fields and has not expired; the clock can tell when it does
    if it is given a lifetime now. -/
structure Kept (lifetime : Nat) (key : String) (values : String → Option String) (s : HashTable × Moment) : Prop where
  live : ∃ e, Keyed.find? s.1 key = some e ∧ e.isLive s.2 = true
  texts : ∀ field, s.1.value key field = values field
  tells : s.2.Tells lifetime

variable {values : String → Option String} {lifetime : Nat}

theorem kept_prune (kept : Kept lifetime key values (t, now)) : Kept lifetime key values (t.prune now, now) := by
  obtain ⟨⟨e, found, live⟩, texts, tells⟩ := kept
  have live' : t.LiveAt key now := fun e' found' => by
    rw [found] at found'
    cases found'
    exact live
  exact ⟨⟨e, by rw [find?_prune live', found], live⟩, fun field => by rw [value_prune live', texts], tells⟩

theorem kept_write (kept : Kept lifetime key values (t, now)) (fields : Fields) :
    Kept lifetime key (overwritten values fields) (t.write key fields, now) := by
  obtain ⟨⟨e, found, live⟩, texts, tells⟩ := kept
  refine ⟨⟨{ e with fields := e.fields.insertAll fields }, ?_, live⟩, fun field => ?_, tells⟩
  · rw [write, Keyed.find?_insert, if_pos rfl, found]
    rfl
  · rw [value_write, texts, overwritten]

theorem kept_schedule (kept : Kept lifetime key values (t, now)) (positive : 0 < lifetime) :
    Kept lifetime key values (t.schedule key (now.elapsed + lifetime), now) := by
  obtain ⟨⟨e, found, live⟩, texts, tells⟩ := kept
  refine ⟨⟨{ e with expiresAt := some (now.elapsed + lifetime) }, ?_, ?_⟩, fun field => ?_, tells⟩
  · rw [schedule, found]
    simp
  · simpa [TableEntry.isLive] using positive
  · rw [value_schedule, texts]

theorem store_keeps (positive : 0 < lifetime) : store.Keeps lifetime (Kept lifetime) where
  putAll kept fields := ⟨_, rfl, kept_write (kept_prune kept) fields⟩
  put kept field value := ⟨_, rfl, kept_write (kept_prune kept) [(field, value)]⟩
  entries kept := ⟨_, _, rfl, kept_prune kept, fun field => by
    obtain ⟨⟨e, found, -⟩, texts, -⟩ := kept_prune kept
    rw [← texts, value, found]
    rfl⟩
  find? kept field := ⟨_, by rw [on_find?, (kept_prune kept).texts], kept_prune kept⟩
  contains kept _ := ⟨_, by
    obtain ⟨e, found, -⟩ := (kept_prune kept).live
    rw [on_contains, found]
    rfl, kept_prune kept⟩
  expire kept := ⟨_, by rw [on_expire, postpone_of_tells kept.tells], kept_schedule (kept_prune kept) positive⟩

end HashTable

end SheetExport
