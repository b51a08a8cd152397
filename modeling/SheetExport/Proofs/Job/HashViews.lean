import Mathlib.Data.List.Induction
import SheetExport.Proofs.Calendar.Timestamp
import SheetExport.Proofs.Job.HashTable

/-! # Hashes without fields

What a table answers about a hash can be had from all of its fields. Only whether there is the hash cannot always be told
from them: a hash is there from the first call that writes to it, even if that call writes no field. It is told wrong
exactly until a field is written.
-/

namespace SheetExport

/-- The same store with the operations that are not required had from those that are. -/
def HashStore.plain {σ : Type} (hashes : HashStore σ) : HashStore σ where
  putAll := hashes.putAll
  entries := hashes.entries
  expire := hashes.expire

inductive HashCall where
  | putAll (key : String) (fields : Fields)
  | put (key field value : String)
  | expire (key : String) (lifetime : Nat)
  /-- Any of the calls that only answer. -/
  | look (key : String)

namespace HashCall

def run {σ : Type} (hashes : HashStore σ) : HashCall → Action σ Unit
  | putAll key fields => hashes.putAll key fields
  | put key field value => hashes.put key field value
  | expire key lifetime => hashes.expire key lifetime
  | look key => do let _ ← hashes.entries key

/-- The fields that a call writes under a key, if it writes there. -/
def written? (key : String) : HashCall → Option Fields
  | putAll k fields => if k = key then some fields else none
  | put k field value => if k = key then some [(field, value)] else none
  | expire .. | look _ => none

end HashCall

namespace HashTable

variable {t : HashTable} {key : String} {now : Moment} {fields : Fields} {calls : List (Moment × HashCall)}

/-- The table after a call that is made at a moment. -/
def afterCall (t : HashTable) (call : Moment × HashCall) : HashTable := ((call.2.run store).on (t, call.1)).2.1

/-- The table that calls make of an empty one. -/
def afterCalls (calls : List (Moment × HashCall)) : HashTable := calls.foldl afterCall []

/-- The fields under a key, if there is such a hash. -/
def hash? (t : HashTable) (key : String) : Option Fields := (Keyed.find? t key).map TableEntry.fields

/-- The hash was made by a call that wrote no field to it, and none was written by a later call. -/
def Hollow (calls : List (Moment × HashCall)) (key : String) : Prop :=
  ∃ before made after, calls = before ++ made :: after ∧ hash? ((afterCalls before).prune made.1) key = none ∧
    made.2.written? key = some [] ∧ ∀ call ∈ after, ∀ fields, call.2.written? key = some fields → fields = []

/-! ## Single calls -/

theorem afterCalls_concat (calls : List (Moment × HashCall)) (call : Moment × HashCall) :
    afterCalls (calls ++ [call]) = (afterCalls calls).afterCall call := List.foldl_append

theorem hash?_write (t : HashTable) (written : String) (fields : Fields) (key : String) :
    hash? (t.write written fields) key = match if written = key then some fields else none with
      | some fields => some (((t.hash? key).getD []).insertAll fields)
      | none => t.hash? key := by
  rw [hash?, find?_write]
  by_cases here : written = key
  · subst here
    rw [if_pos rfl, if_pos rfl, hash?]
    cases Keyed.find? t written <;> rfl
  · rw [if_neg here, if_neg fun same => here same.symm]
    rfl

theorem hash?_schedule (t : HashTable) (scheduled : String) (expiresAt : Nat) (key : String) :
    hash? (t.schedule scheduled expiresAt) key = t.hash? key := by
  rw [hash?, find?_schedule]
  split
  · rename_i here
    rw [here, hash?, Option.map_map]
    rfl
  · rfl

theorem hash?_postpone (now : Moment) (t : HashTable) (scheduled : String) (lifetime : Nat) (key : String) :
    hash? (t.postpone now scheduled lifetime).2 key = t.hash? key := by
  rcases postpone_cases now scheduled lifetime t with given | same
  · rw [given, hash?_schedule]
  · rw [same]

/-- Fields are added to those that have not gone, and other calls leave them as they are. -/
theorem hash?_afterCall (t : HashTable) (call : Moment × HashCall) (key : String) :
    hash? (t.afterCall call) key = match call.2.written? key with
      | some fields => some (((hash? (t.prune call.1) key).getD []).insertAll fields)
      | none => hash? (t.prune call.1) key := by
  obtain ⟨now, call⟩ := call
  cases call with
  | putAll written fields => exact hash?_write (t.prune now) written fields key
  | put written field value => exact hash?_write (t.prune now) written [(field, value)] key
  | expire scheduled lifetime => exact hash?_postpone now (t.prune now) scheduled lifetime key
  | look => rfl

theorem unlike_afterCall (unlike : (t.map Prod.fst).Nodup) (call : Moment × HashCall) :
    ((t.afterCall call).map Prod.fst).Nodup := by
  obtain ⟨now, call⟩ := call
  have pruned : ((t.prune now).map Prod.fst).Nodup := unlike.sublist (List.filter_sublist.map _)
  cases call with
  | putAll | put => exact Keyed.unlike_insert pruned _ _
  | look => exact pruned
  | expire scheduled lifetime =>
      rw [show t.afterCall (now, .expire scheduled lifetime) = ((t.prune now).postpone now scheduled lifetime).2 from rfl]
      exact unlike_postpone pruned now scheduled lifetime

theorem unlike_afterCalls (calls : List (Moment × HashCall)) : ((afterCalls calls).map Prod.fst).Nodup := by
  induction calls using List.reverseRecOn with
  | nil => exact List.nodup_nil
  | append_singleton calls call ih =>
      rw [afterCalls_concat]
      exact unlike_afterCall ih call

theorem hash?_of_prune (unlike : (t.map Prod.fst).Nodup) (there : hash? (t.prune now) key = some fields) :
    t.hash? key = some fields := by
  obtain ⟨e, found, same⟩ := Option.map_eq_some_iff.mp there
  exact Option.map_eq_some_iff.mpr ⟨e, find?_of_prune unlike found, same⟩

/-! ## Calls one after another -/

theorem hollow_concat (call : Moment × HashCall) :
    Hollow (calls ++ [call]) key ↔
      (Hollow calls key ∧ ∀ fields, call.2.written? key = some fields → fields = []) ∨
        (hash? ((afterCalls calls).prune call.1) key = none ∧ call.2.written? key = some []) := by
  constructor
  · rintro ⟨before, made, after, split, new, nothing, silent⟩
    rcases List.eq_nil_or_concat after with rfl | ⟨earlier, last, rfl⟩
    · obtain ⟨rfl, only⟩ := List.append_inj' split rfl
      obtain rfl := List.singleton_inj.mp only
      exact .inr ⟨new, nothing⟩
    · have shape : calls ++ [call] = (before ++ made :: earlier) ++ [last] := by simp [split]
      obtain ⟨rfl, only⟩ := List.append_inj' shape rfl
      obtain rfl := List.singleton_inj.mp only
      exact .inl ⟨⟨before, made, earlier, rfl, new, nothing,
        fun call inside => silent call (by simp [inside])⟩, silent call (by simp)⟩
  · rintro (⟨⟨before, made, after, rfl, new, nothing, silent⟩, still⟩ | ⟨new, nothing⟩)
    · refine ⟨before, made, after ++ [call], by simp, new, nothing, fun other inside => ?_⟩
      cases List.mem_append.mp inside with
      | inl earlier => exact silent other earlier
      | inr last => exact List.mem_singleton.mp last ▸ still
    · exact ⟨calls, call, [], rfl, new, nothing, List.forall_mem_nil _⟩

theorem insertAll_eq_nil_iff (old news : Fields) : old.insertAll news = [] ↔ old = [] ∧ news = [] := by
  induction news generalizing old with
  | nil => simp [Keyed.insertAll]
  | cons x news ih =>
      rw [show old.insertAll (x :: news) = (old.insert x.1 x.2).insertAll news from rfl, ih]
      simp [Keyed.insert]

/-- A hash that is there has no fields exactly if it is hollow. -/
theorem eq_nil_iff_hollow (calls : List (Moment × HashCall)) (key : String) {fields : Fields}
    (there : hash? (afterCalls calls) key = some fields) : fields = [] ↔ Hollow calls key := by
  induction calls using List.reverseRecOn generalizing fields with
  | nil => cases there
  | append_singleton calls call ih =>
      rw [afterCalls_concat, hash?_afterCall] at there
      rw [hollow_concat]
      cases writes : call.2.written? key with
      | none =>
          rw [writes] at there
          have kept := ih (hash?_of_prune (unlike_afterCalls calls) there)
          simp [kept]
      | some news =>
          rw [writes] at there
          obtain rfl := Option.some.inj there
          rw [insertAll_eq_nil_iff]
          cases old : hash? ((afterCalls calls).prune call.1) key with
          | none => simp
          | some fields =>
              have kept := ih (hash?_of_prune (unlike_afterCalls calls) old)
              simp [kept]

/-! ## The two views -/

theorem on_contains_hash? (t : HashTable) (now : Moment) (key : String) :
    (store.contains key).on (t, now) = (.ok (hash? (t.prune now) key).isSome, t.prune now, now) := by
  rw [on_contains, hash?, Option.isSome_map]

theorem on_plain_contains (t : HashTable) (now : Moment) (key : String) :
    (store.plain.contains key).on (t, now) =
      (.ok (!((hash? (t.prune now) key).getD []).isEmpty), t.prune now, now) := rfl

theorem on_plain_find? (t : HashTable) (now : Moment) (key field : String) :
    (store.plain.find? key field).on (t, now) = (store.find? key field).on (t, now) := by
  rw [on_find?, show (store.plain.find? key field).on (t, now) =
    (.ok (((hash? (t.prune now) key).getD []).find? field), t.prune now, now) from rfl, value, hash?]
  cases Keyed.find? (t.prune now) key <;> rfl

/-- Whatever was called, looking up a field and writing one are the same as by the required operations. Whether there
    is a hash is the same by them exactly if it is not one that is there with no field written to it since it was
    made. -/
theorem table_answers_as_plain_iff (calls : List (Moment × HashCall)) (now : Moment) (key : String) :
    let s := (afterCalls calls, now)
    (∀ field, (store.find? key field).on s = (store.plain.find? key field).on s) ∧
    (∀ field value, (store.put key field value).on s = (store.plain.put key field value).on s) ∧
    ((store.contains key).on s = (store.plain.contains key).on s ↔
      ¬ (((store.contains key).on s).1 = .ok true ∧ Hollow calls key)) := by
  refine ⟨fun field => (on_plain_find? _ now key field).symm, fun field value => rfl, ?_⟩
  rw [on_contains_hash?, on_plain_contains]
  cases there : hash? ((afterCalls calls).prune now) key with
  | none => simp
  | some fields =>
      have hollow := eq_nil_iff_hollow calls key (hash?_of_prune (unlike_afterCalls calls) there)
      rw [← hollow]
      cases fields <;> simp

/-- A hash that was made without a field is there, and has no fields. -/
theorem hash_without_fields :
    let s := (afterCalls [(⟨0, midnight⟩, .putAll "k" [])], (⟨0, midnight⟩ : Moment))
    (store.contains "k").on s = (.ok true, s) ∧ (store.entries "k").on s = (.ok [], s) ∧
      (store.plain.contains "k").on s = (.ok false, s) := ⟨rfl, rfl, rfl⟩

end HashTable

end SheetExport
