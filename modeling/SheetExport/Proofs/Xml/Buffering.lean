import SheetExport.Proofs.Xml.Writer

/-! # Bytes between a writer and its output

An output that `TakesWhole` chunks takes all of what it is offered or, when it fails, nothing. In front of such an
output a writer does three things: it adds bytes to its buffer, it offers the buffer, and it flushes the output. What
the output has taken and what is still in the buffer together grow by the bytes that are added, and offering them
changes nothing about it, whether or not they are taken. `Reached` is what these steps lead to, and every call of a
writer is made of them, so no call can lose or double a byte, whatever came of the calls before it.
-/

namespace SheetExport.Xml.Writer

variable {ω : Type} [Output ω]

/-- Pieces one after another. -/
def joined (pieces : List ByteArray) : ByteArray := pieces.foldr (· ++ ·) .empty

/-- What a writer can be asked to do. -/
inductive Call where
  | raw (bytes : ByteArray)
  | put (t : Token)
  | flush

namespace Call

def act : Call → Action (Writer ω) Unit
  | raw bytes => pushBytes bytes
  | put t => Writer.put t
  | flush => Writer.flush

/-- What a call is to add to the document. -/
def rendering : Call → ByteArray
  | raw bytes => bytes
  | put t => t.toText.toUTF8
  | flush => .empty

/-- The pieces in which a call adds it; after each of them the buffer is passed on if it has grown too large. -/
def pieces : Call → List ByteArray
  | raw bytes => [bytes]
  | put t => t.chunks.map String.toUTF8
  | flush => []

end Call

/-- The pieces that come to be added: the first, and each later one if the one before it came through. -/
def added : List ByteArray → Writer ω → List ByteArray
  | [], _ => []
  | piece :: rest, w =>
      piece :: match (pushBytes piece).on w with
        | (.ok _, v) => added rest v
        | (.error _, _) => []

/-- What a call produces on a writer, whether it comes through or fails on the way. -/
def Call.produced (c : Call) (w : Writer ω) : ByteArray := joined (added c.pieces w)

/-- The writer after some calls, each of them made whatever came of the others. -/
def after : List Call → Writer ω → Writer ω
  | [], w => w
  | c :: calls, w => after calls (c.act.on w).2

/-- What these calls produce. -/
def produced : List Call → Writer ω → ByteArray
  | [], _ => .empty
  | c :: calls, w => c.produced w ++ produced calls (c.act.on w).2

/-- A writer onto an output at any moment, within a call or between two, with what was produced until then. -/
inductive Reached (target : ω) : ByteArray → Writer ω → Prop where
  | fresh : Reached target .empty (onto target)
  | add {made w} (bytes : ByteArray) : Reached target made w →
      Reached target (made ++ bytes) { w with buffer := w.buffer ++ bytes }
  | passOn {made w} : Reached target made w → Reached target made (passOn.on w).2
  | flush {made w} : Reached target made w → Reached target made ((onTarget Output.flush).on w).2

variable {content : ω → ByteArray} {target : ω} {made : ByteArray} {w v : Writer ω} {pieces : List ByteArray}

/-! ## Steps -/

/-- Offering the buffer to an output that takes whole chunks moves bytes, or none. -/
theorem passOn_holds (whole : TakesWhole content) (w : Writer ω) :
    content (passOn.on w).2.target ++ (passOn.on w).2.buffer = content w.target ++ w.buffer := by
  rw [passOn_on]
  cases wrote : (Output.write w.buffer : Action ω Unit).on w.target with
  | mk outcome t =>
      cases outcome with
      | ok _ =>
          change content t ++ .empty = content w.target ++ w.buffer
          rw [whole.taken wrote, ByteArray.append_empty]
      | error e =>
          change content t ++ w.buffer = content w.target ++ w.buffer
          rw [whole.refused wrote]

/-- At every moment the output and the buffer hold what was produced, in its order and once. -/
theorem Reached.holds (whole : TakesWhole content) (reached : Reached target made w) :
    content w.target ++ w.buffer = content target ++ made := by
  induction reached with
  | fresh => rfl
  | add bytes _ ih => rw [← ByteArray.append_assoc, ih, ByteArray.append_assoc]
  | passOn _ ih => rw [passOn_holds whole, ih]
  | @flush made w _ ih =>
      change content ((Output.flush : Action ω Unit).on w.target).2 ++ w.buffer = _
      rw [whole.flushed, ih]

/-! ## Calls -/

theorem joined_toUTF8 (chunks : List String) : joined (chunks.map String.toUTF8) = (String.join chunks).toUTF8 := by
  induction chunks with
  | nil => rfl
  | cons chunk chunks ih =>
      rw [show String.join (chunk :: chunks) = chunk ++ String.join chunks by simp, toUTF8_append, ← ih]
      rfl

theorem Call.joined_pieces (c : Call) : joined c.pieces = c.rendering := by
  cases c with
  | raw bytes => exact ByteArray.append_empty
  | put t => exact joined_toUTF8 t.chunks
  | flush => rfl

theorem pushBytes_reached (reached : Reached target made w) (bytes : ByteArray) :
    Reached target (made ++ bytes) ((pushBytes bytes).on w).2 := by
  have grown := reached.add bytes
  rw [pushBytes_on]
  split
  · exact grown.passOn
  · exact grown

/-- Pieces are added one after another up to the first that fails, and that one is added too. -/
theorem pieces_reached (reached : Reached target made w) :
    Reached target (made ++ joined (added pieces w)) ((pieces.forM pushBytes).on w).2 := by
  induction pieces generalizing made w with
  | nil => exact ByteArray.append_empty ▸ reached
  | cons piece rest ih =>
      have first := pushBytes_reached reached piece
      change Reached target (made ++ (piece ++ joined _)) ((pushBytes piece >>= fun _ => rest.forM _).on w).2
      rw [ActionOf.on_bind, ← ByteArray.append_assoc]
      cases pushed : (pushBytes piece).on w with
      | mk outcome v =>
          rw [pushed] at first
          cases outcome with
          | ok _ => exact ih first
          | error e => exact ByteArray.append_empty ▸ first

theorem flush_reached (reached : Reached target made w) : Reached target made (flush.on w).2 := by
  by_cases empty : w.buffer = .empty
  · rw [flush_on_empty empty]
    exact reached.flush
  · have offered := reached.passOn
    rw [flush_on_filled empty, ActionOf.on_bind]
    cases passed : passOn.on w with
    | mk outcome v =>
        rw [passed] at offered
        cases outcome with
        | ok _ => exact offered.flush
        | error e => exact offered

/-- But for a flush, a call adds its pieces and does nothing else. -/
theorem Call.act_eq (c : Call) :
    (c.act : Action (Writer ω) Unit) = c.pieces.forM pushBytes ∨ c = flush := by
  cases c with
  | raw bytes => exact .inl (bind_pure_unit (x := pushBytes bytes)).symm
  | put t =>
      have each : forM (t.chunks.map String.toUTF8) (pushBytes : ByteArray → Action (Writer ω) Unit) =
          forM t.chunks push := List.forM_map
      exact .inl each.symm
  | flush => exact .inr rfl

theorem Call.act_reached (c : Call) (reached : Reached target made w) :
    Reached target (made ++ c.produced w) (c.act.on w).2 := by
  obtain adds | rfl := c.act_eq (ω := ω)
  · rw [adds]
    exact pieces_reached reached
  · rw [show Call.flush.produced w = .empty from rfl, ByteArray.append_empty]
    exact flush_reached reached

theorem after_reached (calls : List Call) (reached : Reached target made w) :
    Reached target (made ++ produced calls w) (after calls w) := by
  induction calls generalizing made w with
  | nil => exact ByteArray.append_empty ▸ reached
  | cons c calls ih =>
      have first := ih (c.act_reached reached)
      rwa [ByteArray.append_assoc] at first

theorem after_onto_reached (calls : List Call) (target : ω) :
    Reached target (produced calls (onto target)) (after calls (onto target)) := by
  have reached := after_reached calls (.fresh : Reached target .empty (onto target))
  rwa [ByteArray.empty_append] at reached

/-! ## Calls that come through -/

theorem passOn_through (ran : passOn.on w = (.ok (), v)) : v.buffer = .empty := by
  rw [passOn_on] at ran
  cases wrote : (Output.write w.buffer : Action ω Unit).on w.target with
  | mk outcome t =>
      rw [wrote] at ran
      cases outcome with
      | ok _ => exact (congrArg (Writer.buffer ∘ Prod.snd) ran).symm
      | error e => cases congrArg Prod.fst ran

/-- Bytes that were added without a failure leave no more in the buffer than it may hold. -/
theorem pushBytes_through {bytes : ByteArray} (ran : (pushBytes bytes).on w = (.ok (), v)) :
    v.buffer.size ≤ bufferLimit := by
  rw [pushBytes_on] at ran
  split at ran
  · rw [passOn_through ran]
    exact Nat.zero_le _
  · next fits =>
      obtain rfl : ({ w with buffer := w.buffer ++ bytes } : Writer ω) = v := congrArg Prod.snd ran
      exact Nat.le_of_not_lt fits

/-- Pieces that all came through were all added. -/
theorem pieces_through (ran : (pieces.forM pushBytes).on w = (.ok (), v)) :
    added pieces w = pieces ∧ (pieces ≠ [] → v.buffer.size ≤ bufferLimit) := by
  induction pieces generalizing w with
  | nil => exact ⟨rfl, fun some => absurd rfl some⟩
  | cons piece rest ih =>
      obtain ⟨_, u, first, ran⟩ := ActionOf.through_of_bind (x := pushBytes piece) ran
      obtain ⟨all, few⟩ := ih ran
      refine ⟨?_, fun _ => ?_⟩
      · rw [added, first]
        exact congrArg _ all
      · cases rest with
        | nil =>
            obtain rfl : u = v := congrArg Prod.snd ran
            exact pushBytes_through first
        | cons next rest => exact few (List.cons_ne_nil _ _)

/-- A flush that comes through leaves nothing in the buffer. -/
theorem flush_through (ran : flush.on w = (.ok (), v)) : v.buffer = .empty := by
  have kept {u : Writer ω} (ran : (onTarget Output.flush).on u = (.ok (), v)) : v.buffer = u.buffer :=
    (congrArg (Writer.buffer ∘ Prod.snd) ran).symm
  by_cases empty : w.buffer = .empty
  · rw [flush_on_empty empty] at ran
    rw [kept ran, empty]
  · rw [flush_on_filled empty] at ran
    obtain ⟨_, u, passed, ran⟩ := ActionOf.through_of_bind (x := passOn) ran
    rw [kept ran]
    exact passOn_through passed

theorem Call.pieces_ne_nil {c : Call} (adds : c ≠ flush) : c.pieces ≠ [] := by
  cases c with
  | raw bytes => simp [pieces]
  | put t => cases t <;> simp [pieces, Token.chunks]
  | flush => exact absurd rfl adds

/-- A call that comes through has produced all that it was to add, and has left room in the buffer. -/
theorem Call.act_through {c : Call} (ran : c.act.on w = (.ok (), v)) :
    c.produced w = c.rendering ∧ v.buffer.size ≤ bufferLimit := by
  by_cases flushes : c = flush
  · subst flushes
    have empty : v.buffer = .empty := flush_through ran
    exact ⟨rfl, by rw [empty]; exact Nat.zero_le _⟩
  · obtain adds | same := c.act_eq (ω := ω)
    · rw [adds] at ran
      obtain ⟨all, few⟩ := pieces_through ran
      exact ⟨by rw [produced, all, c.joined_pieces], few (pieces_ne_nil flushes)⟩
    · exact absurd same flushes

theorem calls_through {calls : List Call} (ran : (calls.forM Call.act).on w = (.ok (), v)) :
    after calls w = v ∧ produced calls w = joined (calls.map Call.rendering) := by
  induction calls generalizing w with
  | nil => exact ⟨congrArg Prod.snd ran, rfl⟩
  | cons c calls ih =>
      obtain ⟨_, u, first, ran⟩ := ActionOf.through_of_bind (x := c.act) ran
      obtain ⟨last, all⟩ := ih ran
      obtain ⟨whole, -⟩ := Call.act_through first
      rw [after, produced, first, whole, all]
      exact ⟨last, rfl⟩

/-- Whatever a writer onto an output that takes whole chunks was asked to do, and whatever came of it: at every moment,
    within a call or after it, the output has taken what it held at first and then, with the bytes that are still in the
    buffer, exactly what the calls produced. A call that comes through has produced its rendering and leaves no more
    than 4096 bytes in the buffer. If all calls come through, and the flush that ends them, the output has taken
    all of their renderings one after another. -/
theorem every_byte_accounted_for (whole : TakesWhole content) (target : ω) :
    (∀ made (w : Writer ω), Reached target made w → content w.target ++ w.buffer = content target ++ made) ∧
    ∀ calls : List Call,
      Reached target (produced calls (onto target)) (after calls (onto target)) ∧
      (∀ (c : Call) v, c.act.on (after calls (onto target)) = (.ok (), v) →
        c.produced (after calls (onto target)) = c.rendering ∧ v.buffer.size ≤ bufferLimit) ∧
      ∀ t v, (do calls.forM Call.act; finish : Action (Writer ω) ω).on (onto target) = (.ok t, v) →
        content t = content target ++ joined (calls.map Call.rendering) := by
  refine ⟨fun made w reached => reached.holds whole, fun calls => ⟨after_onto_reached calls target,
    fun c v ran => Call.act_through ran, fun t v ran => ?_⟩⟩
  obtain ⟨_, w, called, ran⟩ := ActionOf.through_of_bind (x := calls.forM Call.act) ran
  obtain ⟨_, u, flushed, ran⟩ := ActionOf.through_of_bind (x := flush) ran
  obtain rfl : u.target = t := Except.ok.inj (congrArg Prod.fst ran)
  obtain ⟨rfl, all⟩ := calls_through called
  have held := (flush_reached (after_onto_reached calls target)).holds whole
  rwa [flushed, flush_through flushed, ByteArray.append_empty, all] at held

/-! ## Failures that come and go -/

/-- An output that is told in advance which of its writes and flushes go well; the later ones all do. -/
structure Scripted where
  content : ByteArray
  writes : List Bool
  flushes : List Bool

namespace Scripted

def write (bytes : ByteArray) : Action Scripted Unit := .of fun s =>
  if s.writes.headD true then (.ok (), { s with content := s.content ++ bytes, writes := s.writes.tail })
  else (.error (.io .outputFull), { s with writes := s.writes.tail })

def flush : Action Scripted Unit := .of fun s =>
  (if s.flushes.headD true then .ok () else .error (.io .flushRefused), { s with flushes := s.flushes.tail })

instance : Output Scripted := ⟨write, flush⟩

theorem takesWhole : TakesWhole Scripted.content := by
  refine .of_write (fun bytes s => ?_) fun _ => rfl
  simp only [Output.write, write, ActionOf.on_of]
  split <;> rfl

end Scripted

def flushedHalfway : List Call := [.put (.startTag "a"), .flush, .put .closeEmpty, .flush]

/-- The first write and the first flush are refused. The bytes are offered again with those that followed, and taken once;
    a sink without a limit has then taken the same. -/
theorem every_byte_accounted_for_retried :
    let w : Writer Scripted := after flushedHalfway (onto ⟨.empty, [false], [false]⟩)
    w.target.writes = [] ∧ w.target.flushes = [] ∧ w.target.content ++ w.buffer = "<a/>".toUTF8 ∧
      (∃ v, (Call.put .close).act.on w = (.ok (), v) ∧ (Call.put .close).produced w = ">".toUTF8 ∧
        v.buffer.size ≤ bufferLimit) ∧
      ∃ s v, (do flushedHalfway.forM Call.act; finish : Action (Writer Sink) Sink).on (onto .unlimited) = (.ok s, v) ∧
        s.content = "<a/>".toUTF8 := by
  obtain ⟨accounted, calls⟩ := every_byte_accounted_for Scripted.takesWhole ⟨.empty, [false], [false]⟩
  obtain ⟨reached, through, -⟩ := calls flushedHalfway
  obtain ⟨-, smooth⟩ := every_byte_accounted_for Sink.takesWhole .unlimited
  exact ⟨rfl, rfl, accounted _ _ reached, ⟨_, rfl, through _ _ rfl⟩, ⟨_, _, rfl, (smooth flushedHalfway).2.2 _ _ rfl⟩⟩

end SheetExport.Xml.Writer
