import SheetExport.Error

/-!
# Feeds

A `Feed` is a sequence of entities and faults, finite or endless, that is read by position; asking for a
position may act on the world. Feeds are put together from arrays, endless sequences and actions.
-/

namespace SheetExport

structure Feed (ω α : Type) where
  /-- What is at a position; nothing once the feed has ended. -/
  item : Nat → Option (Except ExportError α)
  effect : Nat → ω → ω
  /-- The greatest number of positions that are passed over in search of an entity that is wanted. -/
  patience : Nat

namespace Feed

variable {ω α : Type}

def nil : Feed ω α := ⟨fun _ => none, fun _ w => w, 0⟩

/-- The endless feed of the entities `f 0`, `f 1` and so on. -/
def endless (f : Nat → α) (patience : Nat) : Feed ω α := ⟨fun n => some (.ok (f n)), fun _ w => w, patience⟩

/-- The feed that hands out what is in an array before another feed. -/
def prepend (items : Array (Except ExportError α)) (feed : Feed ω α) : Feed ω α where
  item n := if h : n < items.size then some items[n] else feed.item (n - items.size)
  effect n w := if n < items.size then w else feed.effect (n - items.size) w
  patience := items.size + feed.patience

/-- The feed that acts on the world before anything is handed out. -/
def after (f : ω → ω) (feed : Feed ω α) : Feed ω α :=
  { feed with effect := fun n w => feed.effect n (if n = 0 then f w else w) }

/-- The feed that acts on the world whenever something is handed out. -/
def handing (f : ω → ω) (feed : Feed ω α) : Feed ω α :=
  { feed with effect := fun n w => if (feed.item n).isSome then f (feed.effect n w) else feed.effect n w }

end Feed

end SheetExport
