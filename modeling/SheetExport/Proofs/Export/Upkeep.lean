import SheetExport.Export.Run
import SheetExport.Proofs.Export.Whole

/-! # What an export leaves alone

An export touches its source and the world around it in three ways only: it asks the source for entities, it tells
of its progress, and at the end it closes the source. So whatever asking and telling leave true is true when the
source is closed, however the export ends.
-/

namespace SheetExport

variable {α σ ω β : Type} {P : σ × ω → Prop}

/-- Whatever the source is asked for, short of being closed, it leaves something true. -/
structure Source.Keeps (P : σ × ω → Prop) (source : Source σ ω α) : Prop where
  stream : source.stream.Keeps P
  streamMatching : ∀ filter, (source.streamMatching filter).Keeps P
  next : ∀ s, P s → P (source.next s).2

theorem Source.Keeps.opening {source : Source σ ω α} (keeps : source.Keeps P) (filter : Option Filter) :
    (source.opening filter).Keeps P := by
  cases filter with
  | none => exact keeps.stream
  | some filter => exact keeps.streamMatching filter

def ExportOptions.Keeps (P : σ × ω → Prop) (options : ExportOptions ω) : Prop :=
  ∀ p s w, P (s, w) → P (s, options.listen p w)

section Steps

variable [Gzip]

namespace Run

/-- What is true of the source of a run and the world around it. -/
def Around (P : σ × ω → Prop) (r : Run σ ω) : Prop := P (r.source, r.world)

theorem onWorkbook_keeps (a : Action Workbook β) : (onWorkbook a : RunStep σ ω β).Keeps (Around P) :=
  fun _ held => held

theorem onFormatted_keeps (a : Action (Workbook × FormatMemo) β) :
    (onFormatted a : RunStep σ ω β).Keeps (Around P) :=
  fun _ held => held

theorem tell_keeps {options : ExportOptions ω} (telling : options.Keeps P) (phase : Phase) :
    (tell options phase : RunStep σ ω Unit).Keeps (Around P) :=
  fun r held => telling ⟨phase, r.rows, r.batches⟩ r.source r.world held

theorem onSource_keeps {a : Action (σ × ω) β} (keeps : a.Keeps P) : (onSource a).Keeps (Around P) :=
  fun _ held => keeps _ held

theorem readSource_keeps {a : StateM (σ × ω) β} (keeps : ∀ s, P s → P (a s).2) : (readSource a).Keeps (Around P) :=
  onSource_keeps keeps

theorem writeEntity_keeps (config : Config) (schema : Schema α) (a : α) :
    (writeEntity config schema a : RunStep σ ω Unit).Keeps (Around P) := by
  rw [writeEntity]
  refine .bind .get fun r => ?_
  cases schema.row a with
  | error b => exact .throw _
  | ok values =>
      dsimp only
      split
      · exact .bind (.throw _) fun _ => .bind (onFormatted_keeps _) fun _ => .modify fun _ held => held
      · exact .bind (onFormatted_keeps _) fun _ => .modify fun _ held => held

theorem endBatch_keeps {options : ExportOptions ω} (telling : options.Keeps P) :
    (endBatch options : RunStep σ ω Unit).Keeps (Around P) := by
  refine .bind (onWorkbook_keeps _) fun _ => .bind (.modify fun _ held => held) fun _ =>
    .bind (tell_keeps telling _) fun _ => .bind .get fun r => ?_
  split
  · exact .bind (tell_keeps telling _) fun _ => .throw _
  · exact .pure _

variable {source : Source σ ω α} {options : ExportOptions ω}

theorem writeEntities_keeps (reading : ∀ s, P s → P (source.next s).2) (telling : options.Keeps P) (config : Config)
    (schema : Schema α) (n : Nat) : (writeEntities config options schema source n).Keeps (Around P) := by
  induction n with
  | zero => exact .pure _
  | succ n ih =>
      refine .bind (readSource_keeps reading) fun pull => ?_
      cases pull with
      | finished => exact .pure _
      | fault e => exact .bind .get fun _ => .throw _
      | entity a =>
          refine .bind (writeEntity_keeps config schema a) fun _ => .bind .get fun r => ?_
          split
          · exact .bind (endBatch_keeps telling) fun _ => ih
          · exact ih

variable [Zip]

theorem writeOutput_keeps (now : Timestamp) : (writeOutput now : RunStep σ ω Unit).Keeps (Around P) :=
  fun _ held => held

theorem conclude_keeps (telling : options.Keeps P) (now : Timestamp) :
    (conclude options now : RunStep σ ω Unit).Keeps (Around P) :=
  .bind (tell_keeps telling _) fun _ => .bind (writeOutput_keeps now) fun _ => tell_keeps telling _

theorem exportRows_keeps (asking : source.Keeps P) (telling : options.Keeps P) (config : Config) (schema : Schema α)
    (filter : Option Filter) (now : Timestamp) :
    (exportRows config options schema source filter now).Keeps (Around P) := by
  rw [exportRows_eq]
  exact .bind (tell_keeps telling _) fun _ => .bind (onWorkbook_keeps _) fun _ =>
    .bind (onSource_keeps (asking.opening filter)) fun _ =>
    .bind (writeEntities_keeps asking.next telling config schema _) fun _ => conclude_keeps telling now

end Run

/-- What asking and telling leave true is true when the source is closed. -/
theorem exportTo_keeps [Zip] {source : Source σ ω α} {options : ExportOptions ω} (asking : source.Keeps P)
    (telling : options.Keeps P) (config : Config) (schema : Schema α) (filter : Option Filter) (now : Timestamp)
    (s : σ) (world : ω) (output : Sink) (spillDisk : Except IoFault Disk) (held : P (s, world)) :
    ∃ outcome, ∃ r : Run σ ω,
      exportTo config options schema source filter now s world output spillDisk = (outcome, r.finish source) ∧
        P (r.source, r.world) :=
  ⟨_, _, rfl, Run.exportRows_keeps asking telling config schema filter now (.start config s world output spillDisk) held⟩

end Steps

end SheetExport
