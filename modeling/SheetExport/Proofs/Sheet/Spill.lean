import SheetExport.Proofs.Xml.Writer
import SheetExport.Sheet.Spill

/-! # What a spill holds

A spill holds the rows that were appended to it, first in what it writes with and then in its file, whether or not they
are compressed. Each call on it keeps them if it comes through; it fails only on a disk that is not sound. Of the codec
this needs no more than `LawfulGzip`, which relates what an encoder was given to what its file decodes to.
-/

namespace SheetExport

open Xml

/-! ## Files -/

open ActionOf

namespace ScratchFile

variable {disk : Disk} {content : ByteArray} {f : ScratchFile}

/-- A file with some content, on what is left of a disk. -/
def Holding (disk : Disk) (content : ByteArray) (f : ScratchFile) : Prop :=
  f.content = content ∧ (disk = .sound → f.disk = .sound)

theorem call_ends (whole : ByteArray → ByteArray) (part : Nat → ByteArray → ByteArray) (h : Holding disk content f) :
    Ends (disk ≠ .sound) ((call whole part).on f) (Holding disk (whole content)) := by
  obtain ⟨rfl, sound⟩ := h
  rw [call, ActionOf.on_of]
  refine .of_through (fun same => ?_) fun t came => ?_
  · rw [sound (Classical.not_not.mp same)]
    exact ⟨_, rfl⟩
  · split at came
    · cases came
      exact ⟨rfl, fun same => by simp only [sound same]; rfl⟩
    · cases came

/-- What is read without a fault is the content, and on a sound disk there is no fault. -/
theorem read_holds (h : Holding disk content f) :
    ∃ bytes fault g, f.read = ((bytes, fault), g) ∧ Holding disk content g ∧ (fault = none → bytes = content) ∧
      (disk = .sound → fault = none) := by
  obtain ⟨rfl, sound⟩ := h
  have later : disk = .sound → f.disk.later = .sound := fun same => by
    rw [sound same]
    rfl
  rw [read]
  cases mishap : f.disk.mishap? 0 with
  | none => exact ⟨_, _, _, rfl, ⟨rfl, later⟩, fun _ => rfl, fun _ => rfl⟩
  | some m =>
      refine ⟨_, _, _, rfl, ⟨rfl, later⟩, nofun, fun same => ?_⟩
      rw [sound same] at mishap
      cases mishap

end ScratchFile

/-! ## Codecs -/

variable [Gzip]

/-- An encoder onto a fresh file that was given bytes by calls which all came through. -/
inductive Gzip.Given (disk : Disk) : ByteArray → Gzip.Encoder → Prop where
  | onto : Given disk .empty (Gzip.onto (.empty disk))
  | wrote {x e e'} (bytes : ByteArray) : Given disk x e → (Gzip.write bytes).on e = (.ok (), e') →
      Given disk (x ++ bytes) e'
  | flushed {x e e'} : Given disk x e → Gzip.flush.on e = (.ok (), e') → Given disk x e'

/-- What a spill relies on: a file that was ended in order decodes to the bytes that were given, and on a sound disk
    every call comes through. -/
class LawfulGzip : Prop where
  decode_finish {disk x e f} : Gzip.Given disk x e → Gzip.finish e = (.ok (), f) → Gzip.decode f.content = (x, none)
  write_sound {x e} (bytes : ByteArray) : Gzip.Given .sound x e → ∃ e', (Gzip.write bytes).on e = (.ok (), e')
  flush_sound {x e} : Gzip.Given .sound x e → ∃ e', Gzip.flush.on e = (.ok (), e')
  finish_sound {x e} : Gzip.Given .sound x e → ∃ f, Gzip.finish e = (.ok (), f) ∧ f.disk = .sound

/-- The file stands for the text. -/
def ScratchFile.Legible (disk : Disk) (compressed : Bool) (text : ByteArray) (f : ScratchFile) : Prop :=
  ∃ content, f.Holding disk content ∧
    (if compressed then Gzip.decode content else (content, none)) = (text, (none : Option IoFault))

namespace SpillSink

/-- A sink that has taken the text, by calls which all came through. -/
def Given (disk : Disk) (compressed : Bool) (text : ByteArray) : SpillSink → Prop
  | plain file => compressed = false ∧ file.Holding disk text
  | gzip encoder => compressed = true ∧ Gzip.Given disk text encoder

theorem given_onto (disk : Disk) (compressed : Bool) :
    Given disk compressed .empty (onto compressed (.empty disk)) := by
  cases compressed with
  | false => exact ⟨rfl, rfl, id⟩
  | true => exact ⟨rfl, .onto⟩

/-- A call of either kind of file that takes some bytes. -/
theorem either_appends {disk : Disk} {compressed : Bool} {plainly : ActionOf IoFault ScratchFile Unit}
    {encoding : ActionOf IoFault Gzip.Encoder Unit} {bytes : ByteArray}
    (file : ∀ x f, f.Holding disk x → Ends (disk ≠ .sound) (plainly.on f) (ScratchFile.Holding disk (x ++ bytes)))
    (encoder : ∀ x e, Gzip.Given disk x e → Ends (disk ≠ .sound) (encoding.on e) (Gzip.Given disk (x ++ bytes))) :
    Appends (fun _ => disk ≠ .sound) (Given disk compressed) (either plainly encoding) bytes := by
  intro x s given
  cases s with
  | plain f => exact .of_ends plain (file x f given.2) rfl fun _ held => ⟨given.1, held⟩
  | gzip e => exact .of_ends gzip (encoder x e given.2) rfl fun _ held => ⟨given.1, held⟩

end SpillSink

/-! ## Spills -/

namespace Spill

variable {disk : Disk} {text : ByteArray} {s t : Spill}

theorem finished_of_writing {writer : Writer SpillSink} (writing : s.writer = some writer) : s.finished = false := by
  rw [finished, writing]
  rfl

theorem writer_of_unfinished (unfinished : s.finished = false) : ∃ writer, s.writer = some writer := by
  cases writing : s.writer with
  | none => simp [finished, writing] at unfinished
  | some writer => exact ⟨writer, rfl⟩

theorem writer_of_finished (finished : s.finished = true) : s.writer = none := by
  simpa [Spill.finished] using finished

theorem onWriter_on {α : Type} {a : Action (Writer SpillSink) α} {writer writer' : Writer SpillSink}
    {r : Except ExportError α} (writing : s.writer = some writer) (ran : a.on writer = (r, writer')) :
    (onWriter a).on s = (r, { s with writer := some writer' }) := by
  rw [onWriter, ActionOf.on_of, writing]
  simp only [ran]

/-- A finished spill refuses every action on its writer. -/
theorem onWriter_finished {α : Type} {a : Action (Writer SpillSink) α} (finished : s.finished = true) :
    (onWriter a).on s = (.error (.write "spill file already finished"), s) := by
  rw [onWriter, ActionOf.on_of, writer_of_finished finished]

theorem demandUnfinished_on (unfinished : s.finished = false) : demandUnfinished.on s = (.ok (), s) := by
  obtain ⟨writer, writing⟩ := writer_of_unfinished unfinished
  rw [demandUnfinished, onWriter_on writing (ActionOf.on_pure () writer), ← writing]

theorem onWriter_keeps {α : Type} (a : Action (Writer SpillSink) α) (n : Nat) (finished : Bool) :
    ActionOf.Keeps (fun s => s.rows = n ∧ s.finished = finished) (onWriter a) := by
  rintro s ⟨rows, same⟩
  cases writing : s.writer with
  | none =>
      rw [onWriter, ActionOf.on_of, writing]
      exact ⟨rows, same⟩
  | some writer =>
      rw [onWriter_on (a := a) writing rfl]
      refine ⟨rows, ?_⟩
      rw [← same, finished_of_writing writing]
      rfl

/-- A row counts once all of it has been written. -/
theorem append_counts (tokens : List Token) (s : Spill) :
    ∃ r t, (append tokens).on s = (r, t) ∧ t.finished = s.finished ∧
      t.rows = match r with
        | .ok _ => s.rows + 1
        | .error _ => s.rows := by
  have kept := onWriter_keeps (Writer.putAll tokens) s.rows s.finished s ⟨rfl, rfl⟩
  rw [append, ActionOf.on_bind]
  cases ran : (onWriter (Writer.putAll tokens)).on s with
  | mk outcome t =>
      rw [ran] at kept
      cases outcome with
      | error e => exact ⟨_, _, rfl, kept.2, kept.1⟩
      | ok _ => exact ⟨_, _, rfl, kept.2, congrArg (· + 1) kept.1⟩

theorem flush_finished (finished : s.finished = true) : flush.on s = (.ok (), s) := by
  simp [flush, finished]

theorem flush_keeps (n : Nat) (finished : Bool) :
    ActionOf.Keeps (fun s => s.rows = n ∧ s.finished = finished) flush := by
  refine ActionOf.Keeps.get.bind fun s => ?_
  split
  · exact .pure _
  · exact onWriter_keeps _ n finished

theorem finish_again (finished : s.finished = true) : finish.on s = (.ok (), s) := by
  rw [finish, ActionOf.on_of, writer_of_finished finished]

/-- A spill that holds a text, whether or not it is finished. -/
def Has (disk : Disk) (text : ByteArray) (s : Spill) : Prop :=
  match s.writer with
  | some writer => writer.Has (SpillSink.Given disk s.compressed) text
  | none => s.file.Legible disk s.compressed text

theorem has_create (compressed : Bool) (disk : Disk) : Has disk .empty (create compressed disk) :=
  Writer.has_onto (SpillSink.given_onto disk compressed)

variable {writer : Writer SpillSink}

theorem Has.writing (has : Has disk text s) (writing : s.writer = some writer) :
    writer.Has (SpillSink.Given disk s.compressed) text := by
  rwa [Has, writing] at has

/-- An action on a writer that appends to what was written appends to what the spill holds. -/
theorem onWriter_comes {a : Action (Writer SpillSink) Unit} {new : ByteArray} (unfinished : s.finished = false)
    (appends : ∀ writer, writer.Has (SpillSink.Given disk s.compressed) text →
      a.ComesTo writer (disk ≠ .sound) fun _ w => w.Has (SpillSink.Given disk s.compressed) new)
    (has : Has disk text s) :
    (onWriter a).ComesTo s (disk ≠ .sound) fun _ t => Has disk new t ∧ t.finished = false ∧ t.rows = s.rows := by
  obtain ⟨writer, writing⟩ := writer_of_unfinished unfinished
  obtain ⟨_, writer', ran, held⟩ | ⟨unsound, fault, writer', failed⟩ := appends writer (has.writing writing)
  · exact .of_ok (onWriter_on writing ran) ⟨held, rfl, rfl⟩
  · exact .inr ⟨unsound, fault, _, onWriter_on writing failed⟩

/-- What is read without a fault is the text. -/
theorem read_comes (finished : s.finished = true) (has : Has disk text s) :
    ∃ bytes fault t, read.on s = (.ok (bytes, fault), t) ∧ (Has disk text t ∧ t.finished = true ∧ t.rows = s.rows) ∧
      (fault = none → bytes = text) ∧ (disk = .sound → fault = none) := by
  have none := writer_of_finished finished
  rw [Has, none] at has
  obtain ⟨content, held, stands⟩ := has
  obtain ⟨bytes, fault, file, read, held, whole, sound⟩ := ScratchFile.read_holds held
  have kept : Has disk text { s with file } := by
    rw [Has, none]
    exact ⟨content, held, stands⟩
  refine ⟨_, _, { s with file }, by rw [Spill.read, ActionOf.on_of, read], ⟨kept, finished, rfl⟩, ?_, ?_⟩
  · intro clear
    obtain ⟨rfl, -⟩ := Option.or_eq_none_iff.mp clear
    rw [whole rfl, stands]
  · intro same
    rw [sound same, Option.none_or, whole (sound same), stands]

theorem read_keeps (disk : Disk) (text : ByteArray) (n : Nat) :
    ActionOf.Keeps (fun s => Has disk text s ∧ s.rows = n) read := by
  rintro s ⟨has, rfl⟩
  cases finished : s.finished with
  | true =>
      obtain ⟨_, _, t, read, ⟨has, -, rows⟩, -⟩ := read_comes finished has
      rw [read]
      exact ⟨has, rows⟩
  | false =>
      obtain ⟨writer, writing⟩ := writer_of_unfinished finished
      rw [Has, writing] at has
      exact ⟨by rwa [Has, show (read.on s).2.writer = some writer from writing], rfl⟩

/-- What holds of a spill once it is finished, and is kept by reading, holds after it was copied to any output. -/
theorem copyTo_leaves {ω : Type} [Output ω] {P : Spill → Prop} (finished : P (finish.on s).2)
    (reads : ActionOf.Keeps P read) (out : ω) : P (copyTo.on (s, out)).2.1 := by
  refine ActionOf.Keeps.after (P := fun x : Spill × ω => P x.1) finished fun _ => ?_
  refine ActionOf.Keeps.bind (fun x held => reads x.1 held) fun (_, fault) => .bind (fun _ held => held) fun _ => ?_
  cases fault with
  | none => exact .pure _
  | some fault => exact .throw _

end Spill

/-! ## What comes through -/

variable [LawfulGzip]

namespace SpillSink

variable {disk : Disk} {compressed : Bool} {text : ByteArray} {s : SpillSink}

theorem takes (disk : Disk) (compressed : Bool) : Takes (fun _ => disk ≠ .sound) (Given disk compressed) where
  write bytes := by
    refine either_appends (fun _ _ held => ScratchFile.call_ends _ _ held) fun x e given => ?_
    refine .of_through (fun sound => ?_) fun _ wrote => given.wrote bytes wrote
    obtain rfl := Classical.not_not.mp sound
    exact LawfulGzip.write_sound bytes given
  flush := by
    refine either_appends (fun x _ held => ?_) fun x e given => ?_
    · rw [ByteArray.append_empty]
      exact ScratchFile.call_ends _ _ held
    · rw [ByteArray.append_empty]
      refine .of_through (fun sound => ?_) fun _ flushed => given.flushed flushed
      obtain rfl := Classical.not_not.mp sound
      exact LawfulGzip.flush_sound given
  lasts _ _ unsound := unsound

/-- What was taken is in the file in the end. -/
theorem finish_ends (given : Given disk compressed text s) :
    Ends (disk ≠ .sound) s.finish (ScratchFile.Legible disk compressed text) := by
  cases s with
  | plain f =>
      obtain ⟨rfl, held⟩ := given
      obtain ⟨g, closed, held⟩ | failed := ScratchFile.call_ends id (fun n x => x.extract 0 n) held
      · exact .inl ⟨g, closed, text, held, rfl⟩
      · exact .inr failed
  | gzip e =>
      obtain ⟨rfl, given⟩ := given
      cases ended : Gzip.finish e with
      | mk outcome f =>
          have sound (same : disk = .sound) : outcome = .ok () ∧ f.disk = .sound := by
            subst same
            obtain ⟨f', came, sound⟩ := LawfulGzip.finish_sound given
            rw [ended] at came
            cases came
            exact ⟨rfl, sound⟩
          have held : f.Holding disk f.content := ⟨rfl, fun same => (sound same).2⟩
          have closes := ScratchFile.call_ends id (fun n x => x.extract 0 n) held
          cases outcome with
          | error fault =>
              refine .inr ⟨fun same => (nomatch (sound same).1), fault, (ScratchFile.close.on f).2, ?_⟩
              simp only [finish, ended]
              rfl
          | ok _ =>
              obtain ⟨g, closed, held⟩ | ⟨unsound, fault, g, failed⟩ := closes
              · refine .inl ⟨g, ?_, f.content, held, LawfulGzip.decode_finish given ended⟩
                simp only [finish, ended, ScratchFile.close, closed]
                rfl
              · refine .inr ⟨unsound, fault, g, ?_⟩
                simp only [finish, ended, ScratchFile.close, failed]
                rfl

end SpillSink

namespace Spill

variable {disk : Disk} {text : ByteArray} {s : Spill}

theorem append_comes (tokens : List Token) (unfinished : s.finished = false) (has : Has disk text s) :
    (append tokens).ComesTo s (disk ≠ .sound) fun _ t =>
      Has disk (text ++ (render tokens).toUTF8) t ∧ t.finished = false ∧ t.rows = s.rows + 1 :=
  (onWriter_comes unfinished
    (Writer.putAll_appends (SpillSink.takes disk s.compressed) tokens text) has).bind fun _ t ⟨held, open', rows⟩ =>
      .of_ok (ActionOf.on_modify _ t) ⟨held, open', congrArg (· + 1) rows⟩

theorem flush_comes (unfinished : s.finished = false) (has : Has disk text s) :
    flush.ComesTo s (disk ≠ .sound) fun _ t => Has disk text t ∧ t.finished = false ∧ t.rows = s.rows := by
  have same : flush.on s = (onWriter Writer.flush).on s := by simp [flush, unfinished]
  rw [ActionOf.ComesTo, same]
  exact onWriter_comes unfinished (fun _ has =>
    (Writer.flush_passes (SpillSink.takes disk s.compressed) has).imp id fun _ _ flushed => flushed.has) has

theorem finish_comes (has : Has disk text s) :
    finish.ComesTo s (disk ≠ .sound) fun _ t => Has disk text t ∧ t.finished = true ∧ t.rows = s.rows := by
  cases writing : s.writer with
  | none =>
      have finished : s.finished = true := by simp [finished, writing]
      exact .of_ok (finish_again finished) ⟨has, finished, rfl⟩
  | some writer =>
      rw [ActionOf.ComesTo, finish, ActionOf.on_of, writing]
      obtain ⟨_, writer', ran, taken, -⟩ | ⟨unsound, fault, writer', failed⟩ :=
        Writer.flush_passes (SpillSink.takes disk s.compressed) (has.writing writing)
      · obtain ⟨file, ended, legible⟩ | ⟨unsound, fault, file, failed⟩ := SpillSink.finish_ends taken
        · exact .inl ⟨(), { s with writer := none, file }, by simp only [ran, ended]; rfl, legible, rfl, rfl⟩
        · exact .inr ⟨unsound, fault, { s with writer := none, file }, by simp only [ran, failed]; rfl⟩
      · refine .inr ⟨unsound, fault, { s with writer := none, file := writer'.target.finish.2 }, ?_⟩
        simp only [failed]
        rfl

variable {ω : Type} [Output ω] {H : ByteArray → ω → Prop} {excuse : ByteArray → Prop}

theorem copyTo_comes (takes : Takes excuse H) (has : Has disk text s) {taken : ByteArray} {out : ω}
    (ready : H taken out) :
    copyTo.ComesTo (s, out) (disk ≠ .sound ∨ excuse (taken ++ text)) fun _ x =>
      (Has disk text x.1 ∧ x.1.finished = true ∧ x.1.rows = s.rows) ∧ H (taken ++ text) x.2 := by
  refine ((finish_comes has).first.imp .inl fun _ _ => id).bind fun _ x ⟨⟨has, finished, rows⟩, same⟩ => ?_
  obtain ⟨t, out⟩ := x
  obtain rfl : out = _ := same
  obtain ⟨bytes, fault, u, read, ⟨has, finished, rows'⟩, whole, sound⟩ := read_comes finished has
  refine .after (ActionOf.on_first_of read out) ?_
  have wrote := (takes.write bytes taken out ready).second (u := u)
  cases fault with
  | none =>
      obtain rfl := whole rfl
      refine (wrote.imp .inr fun _ _ => id).bind fun _ x ⟨taken, same⟩ => .of_ok rfl ?_
      rw [same]
      exact ⟨⟨has, finished, rows'.trans rows⟩, taken⟩
  | some fault =>
      have unsound : disk ≠ .sound := fun same => nomatch sound same
      exact (wrote.imp (fun _ => .inl unsound) fun _ _ => id).bind fun _ _ _ => .inr ⟨.inl unsound, fault, _, rfl⟩

end Spill

end SheetExport
