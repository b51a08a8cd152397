import SheetExport.Proofs.Sheet.Contents
import SheetExport.Proofs.Workbook.Zip
import SheetExport.Workbook.Basic

/-! # Packing a workbook

A workbook that was written with success is read back as its parts, whatever limit the output had: the parts that say
what it consists of, its styles, and its sheet with all rows. To an output that takes everything it is written, unless
the disk with its rows fails or another part than that of the sheet is too large for an archive.
-/

namespace SheetExport

/-- Parts that an archive takes. -/
structure Zip.Fits (parts : List Part) : Prop where
  distinct : (parts.map Part.name).Nodup
  small : ∀ p ∈ parts, p.large = false → p.content.size ≤ smallLimit

theorem Zip.Fits.left {parts more : List Part} (fits : Fits (parts ++ more)) : Fits parts where
  distinct := by
    have distinct := fits.distinct
    rw [List.map_append] at distinct
    exact (List.nodup_append.mp distinct).1
  small p inside := fits.small p (List.mem_append_left _ inside)

namespace Workbook

open Zip

def smallPart (name content : String) : Part := ⟨name, true, false, content.toUTF8⟩

def partsBefore (now : Timestamp) (styles : StyleSheet) (name : String) : List Part :=
  [smallPart "[Content_Types].xml" WorkbookPart.contentTypes,
    smallPart "_rels/.rels" WorkbookPart.rootRelations,
    smallPart "docProps/core.xml" (WorkbookPart.coreProperties now),
    smallPart "docProps/app.xml" WorkbookPart.applicationProperties,
    smallPart "xl/workbook.xml" (Xml.render (WorkbookPart.workbookTokens name)),
    smallPart "xl/_rels/workbook.xml.rels" WorkbookPart.workbookRelations,
    smallPart "xl/styles.xml" (Xml.render styles.tokens)]

def worksheet [Gzip] (name : String) (widths : List Nat) (rows : List Row) : Part :=
  ⟨"xl/worksheets/sheet1.xml", true, true, (Window.worksheetText name widths rows).toUTF8⟩

theorem partsBefore_fit [Gzip] (now : Timestamp) (styles : StyleSheet) (name : String)
    (small : ∀ p ∈ partsBefore now styles name, p.content.size ≤ smallLimit) (title : String) (widths : List Nat)
    (rows : List Row) : Fits (partsBefore now styles name ++ [worksheet title widths rows]) where
  distinct := by simp [partsBefore, smallPart, worksheet]
  small p inside := by
    cases List.mem_append.mp inside with
    | inl before => exact fun _ => small p before
    | inr last =>
        rw [List.mem_singleton.mp last]
        exact nofun

end Workbook

section

variable [Zip]

theorem Zip.part?_of_parts? {bytes : ByteArray} {start : Nat} {name : String} {parts : List Part} {part : Part}
    (read : parts? bytes start = .ok parts) (found : parts.find? (fun p => p.name = name) = some part) :
    part? bytes start name = .ok part := by
  simp only [part?, read, bind, Except.bind, found]

namespace Workbook

variable [Gzip] {bytes : ByteArray} {start : Nat} {now : Timestamp} {styles : StyleSheet} {title name : String}
  {widths : List Nat} {rows : List Row}

theorem part?_worksheet
    (read : Zip.parts? bytes start = .ok (partsBefore now styles title ++ [worksheet name widths rows])) :
    Zip.part? bytes start "xl/worksheets/sheet1.xml" = .ok (worksheet name widths rows) :=
  Zip.part?_of_parts? read (by simp [partsBefore, smallPart, worksheet])

theorem part?_styles
    (read : Zip.parts? bytes start = .ok (partsBefore now styles title ++ [worksheet name widths rows])) :
    Zip.part? bytes start "xl/styles.xml" = .ok (smallPart "xl/styles.xml" (Xml.render styles.tokens)) :=
  Zip.part?_of_parts? read (by simp [partsBefore, smallPart])

end Workbook

/-! ## Parts one after another -/

/-- The action adds some parts to an archive, if it comes through. It does onto an output that takes everything, if the
    archive can take the parts. -/
def Zip.Adds (a : Action Zip.Writer Unit) (added : List Part) : Prop :=
  ∀ sink parts w, Given sink parts w →
    (∀ w', a.on w = (.ok (), w') → Given sink (parts ++ added) w') ∧
    (Sink.Open sink.content sink → Fits (parts ++ added) → ∃ w', a.on w = (.ok (), w'))

namespace Zip.Adds

variable {a b : Action Zip.Writer Unit} {added more : List Part}

theorem seq (first : Adds a added) (second : Adds b more) : Adds (do a; b) (added ++ more) := by
  intro sink parts w given
  rw [← List.append_assoc]
  constructor
  · intro w' ran
    obtain ⟨_, u, ranFirst, ranSecond⟩ := ActionOf.through_of_bind ran
    exact (second sink _ u ((first sink parts w given).1 u ranFirst)).1 w' ranSecond
  · intro opened fits
    obtain ⟨u, ranFirst⟩ := (first sink parts w given).2 opened fits.left
    obtain ⟨w', ranSecond⟩ := (second sink _ u ((first sink parts w given).1 u ranFirst)).2 opened fits
    exact ⟨w', (ActionOf.on_bind_ok ranFirst _).trans ranSecond⟩

end Zip.Adds

/-- A workbook is written as its parts, and then the archive is ended. -/
theorem Workbook.write_on [Gzip] {book : Workbook} {w : Window} (now : Timestamp) (sheet : book.sheet = some w)
    {sink : Sink} {v : Window} {zip : Zip.Writer} {outcome : Except ExportError Unit}
    (packed : (Workbook.parts now book.styles).on (w, Zip.onto sink) = (outcome, v, zip)) :
    (Workbook.write now).on (book, sink) = match outcome with
      | .ok _ => ((Workbook.endArchive zip).1, { book with sheet := some v }, (Workbook.endArchive zip).2)
      | .error e => (.error e, { book with sheet := some v }, Zip.abandon zip) := by
  rw [Workbook.write, ActionOf.on_of]
  simp only [sheet, packed]
  cases outcome <;> rfl

variable [LawfulZip]

/-- A part is begun wherever its name is not taken. -/
theorem Workbook.startPart_adds (name : String) (short : name.utf8ByteSize < 2 ^ 16) (large : Bool) :
    Zip.Adds (startPart name large) [⟨name, true, large, .empty⟩] := by
  intro sink parts w given
  constructor
  · intro w' ran
    exact given.started short (ActionOf.through_of_failingAs ran)
  · intro opened fits
    obtain ⟨w', ran⟩ := LawfulZip.startPart_open large given opened short (by
      have distinct := fits.distinct
      rw [List.map_append, List.nodup_append] at distinct
      exact fun p inside => distinct.2.2 p.name (List.mem_map_of_mem inside) name (by simp))
    exact ⟨w', ActionOf.on_failingAs_of ran _⟩

theorem Zip.adds_part {name : String} (short : name.utf8ByteSize < 2 ^ 16) {large : Bool} {a : Action Zip.Writer Unit}
    {bytes : ByteArray}
    (appends : ∀ sink parts, Appends (fun x => ¬Sink.Open sink.content sink ∨ large = false ∧ smallLimit < x.size)
      (fun x w => Given sink (parts ++ [⟨name, true, large, x⟩]) w) a bytes) :
    Adds (do Workbook.startPart name large; a) [⟨name, true, large, bytes⟩] := by
  intro sink parts w given
  have starts := Workbook.startPart_adds name short large sink parts w given
  have empty : Zip.Fits (parts ++ [⟨name, true, large, bytes⟩]) → Zip.Fits (parts ++ [⟨name, true, large, .empty⟩]) := by
    intro fits
    refine ⟨by simpa using fits.distinct, fun p inside => ?_⟩
    cases List.mem_append.mp inside with
    | inl before => exact fits.small p (List.mem_append_left _ before)
    | inr last =>
        rw [List.mem_singleton.mp last]
        exact fun _ => Nat.zero_le _
  constructor
  · intro w' ran
    obtain ⟨_, u, started, wrote⟩ := ActionOf.through_of_bind ran
    have held := (appends sink parts .empty u (starts.1 u started)).of_through wrote
    rwa [ByteArray.empty_append] at held
  · intro opened fits
    obtain ⟨u, started⟩ := starts.2 opened (empty fits)
    obtain ⟨_, w', wrote, -⟩ := (appends sink parts .empty u (starts.1 u started)).through (by
      rw [ByteArray.empty_append, not_or, not_not, not_and, Nat.not_lt]
      exact ⟨opened, fits.small ⟨name, true, large, bytes⟩ (by simp)⟩)
    exact ⟨w', (ActionOf.on_bind_ok started _).trans wrote⟩

namespace Workbook

open Zip

theorem textPart_adds (name content : String) (short : name.utf8ByteSize < 2 ^ 16) :
    Adds (textPart name content) [smallPart name content] :=
  adds_part short fun sink parts => (takes sink parts name false).write _

theorem tokenPart_adds (name : String) (tokens : List Xml.Token) (short : name.utf8ByteSize < 2 ^ 16) :
    Adds (tokenPart name tokens) [smallPart name (Xml.render tokens)] :=
  adds_part short fun sink parts => Xml.Writer.writeAll_appends (takes sink parts name false) tokens

theorem partsBefore_add (now : Timestamp) (styles : StyleSheet) (name : String) :
    Adds (do textPart "[Content_Types].xml" WorkbookPart.contentTypes
             textPart "_rels/.rels" WorkbookPart.rootRelations
             textPart "docProps/core.xml" (WorkbookPart.coreProperties now)
             textPart "docProps/app.xml" WorkbookPart.applicationProperties
             tokenPart "xl/workbook.xml" (WorkbookPart.workbookTokens name)
             textPart "xl/_rels/workbook.xml.rels" WorkbookPart.workbookRelations
             tokenPart "xl/styles.xml" styles.tokens) (partsBefore now styles name) :=
  (textPart_adds _ _ (by decide)).seq <| (textPart_adds _ _ (by decide)).seq <| (textPart_adds _ _ (by decide)).seq <|
    (textPart_adds _ _ (by decide)).seq <| (tokenPart_adds _ _ (by decide)).seq <|
    (textPart_adds _ _ (by decide)).seq (tokenPart_adds _ _ (by decide))

/-- What is written in the end is read back. -/
theorem endArchive_reads {sink : Sink} {parts : List Part} {zip : Zip.Writer} (given : Given sink parts zip)
    (nonempty : parts ≠ []) :
    (∀ sink', endArchive zip = (.ok (), sink') → ∃ archive, sink'.content = sink.content ++ archive ∧
      Zip.parts? sink'.content sink.content.size = .ok parts) ∧
    (Sink.Open sink.content sink → ∃ sink', endArchive zip = (.ok (), sink')) := by
  rw [endArchive]
  constructor
  · intro sink' ended
    cases finished : Zip.finish zip with
    | mk outcome last =>
        rw [finished] at ended
        cases outcome with
        | error fault => cases ended
        | ok _ =>
            have same := Sink.takesWhole.flushed last
            rw [show (Output.flush : Action Sink Unit).on last = (.ok (), sink') from ended] at same
            rw [same]
            exact LawfulZip.parts_finish given nonempty finished
  · intro opened
    obtain ⟨last, finished, opened⟩ := LawfulZip.finish_open given opened
    obtain ⟨sink', flushed, -⟩ := Sink.takesAll.flush _ last opened
    exact ⟨sink', by rw [finished]; exact flushed⟩

variable [Gzip] [LawfulGzip] {disk : Disk} {book : Workbook} {name : String} {widths : List Nat} {rows : List Row}
  {w : Window}

theorem sheetPart_written {sink : Sink} {parts : List Part} {zip : Zip.Writer} (h : w.Shows disk name widths rows)
    (narrow : ∀ r ∈ rows, r.cells.length ≤ widths.length) (given : Given sink parts zip) :
    (∀ v zip', sheetPart.on (w, zip) = (.ok (), v, zip') → Given sink (parts ++ [worksheet name widths rows]) zip') ∧
    (Sink.Open sink.content sink → Fits (parts ++ [worksheet name widths rows]) →
      sheetPart.ComesTo (w, zip) (disk ≠ .sound) fun _ x => Given sink (parts ++ [worksheet name widths rows]) x.2) := by
  have starts := startPart_adds "xl/worksheets/sheet1.xml" (by decide) true sink parts zip given
  have writes {zip'} (given : Given sink (parts ++ [⟨"xl/worksheets/sheet1.xml", true, true, .empty⟩]) zip') :=
    Window.writePart_writes (takes sink parts "xl/worksheets/sheet1.xml" true) h narrow given
  constructor
  · intro v zip' ran
    obtain ⟨_, _, began, wrote⟩ := ActionOf.through_of_bind ran
    obtain ⟨zip'', started, rfl⟩ := ActionOf.through_of_second began
    have held := (writes (starts.1 zip'' started)).of_through wrote
    rwa [ByteArray.empty_append] at held
  · intro opened fits
    obtain ⟨zip', started⟩ := starts.2 opened ⟨by simpa [worksheet] using fits.distinct, by
      intro p inside
      cases List.mem_append.mp inside with
      | inl before => exact fits.small p (List.mem_append_left _ before)
      | inr last => rw [List.mem_singleton.mp last]; exact nofun⟩
    rw [sheetPart]
    refine .after (ActionOf.on_second_of started w) ((writes (starts.1 zip' started)).imp ?_ fun _ _ held => ?_)
    · rintro (unsound | closed | ⟨small, -⟩)
      · exact unsound
      · exact absurd opened closed
      · cases small
    · rwa [ByteArray.empty_append] at held

theorem parts_written (now : Timestamp) (styles : StyleSheet) (h : w.Shows disk name widths rows)
    (narrow : ∀ r ∈ rows, r.cells.length ≤ widths.length) (sink : Sink) :
    (∀ v zip, (Workbook.parts now styles).on (w, Zip.onto sink) = (.ok (), v, zip) →
      Given sink (partsBefore now styles name ++ [worksheet name widths rows]) zip) ∧
    (Sink.Open sink.content sink → (∀ p ∈ partsBefore now styles name, p.content.size ≤ smallLimit) →
      (Workbook.parts now styles).ComesTo (w, Zip.onto sink) (disk ≠ .sound) fun _ x =>
        Given sink (partsBefore now styles name ++ [worksheet name widths rows]) x.2) := by
  obtain rfl : w.name = name := h.name
  have before := partsBefore_add now styles w.name sink [] (Zip.onto sink) .onto
  constructor
  · intro v zip ran
    rw [Workbook.parts, ActionOf.on_get_bind] at ran
    obtain ⟨_, _, began, last⟩ := ActionOf.through_of_bind ran
    obtain ⟨zip', first, rfl⟩ := ActionOf.through_of_second began
    exact (sheetPart_written h narrow (before.1 zip' first)).1 v zip last
  · intro opened small
    have fits := partsBefore_fit now styles w.name small w.name widths rows
    obtain ⟨zip', first⟩ := before.2 opened fits.left
    have last := (sheetPart_written h narrow (before.1 zip' first)).2 opened fits
    rw [Workbook.parts]
    exact .after (x := (w, Zip.onto sink)) rfl (.after (ActionOf.on_second_of first w) last)

/-- What a workbook was written as is read back as its parts, whatever limit the output had. -/
theorem written_reads_back {book' : Workbook} {now : Timestamp} {sink sink' : Sink}
    (written : (write now).on (book, sink) = (.ok (), book', sink')) (sheet : book.sheet = some w)
    (h : w.Shows disk name widths rows) (narrow : ∀ r ∈ rows, r.cells.length ≤ widths.length) :
    ∃ archive, sink'.content = sink.content ++ archive ∧
      Zip.parts? sink'.content sink.content.size =
        .ok (partsBefore now book.styles name ++ [worksheet name widths rows]) := by
  cases packed : (Workbook.parts now book.styles).on (w, Zip.onto sink) with
  | mk outcome x =>
      rw [write_on now sheet packed] at written
      cases outcome with
      | error e => cases written
      | ok _ =>
          have given := (parts_written now book.styles h narrow sink).1 x.1 x.2 packed
          cases ended : endArchive x.2 with
          | mk outcome last =>
              simp only [ended] at written
              cases written
              exact (endArchive_reads given (by simp)).1 sink' ended

/-- To an output that takes everything a workbook is written, unless the disk of its sheet fails. -/
theorem write_comes (now : Timestamp) (sheet : book.sheet = some w) (h : w.Shows disk name widths rows)
    (narrow : ∀ r ∈ rows, r.cells.length ≤ widths.length) {sink : Sink} (opened : Sink.Open sink.content sink)
    (small : ∀ p ∈ partsBefore now book.styles name, p.content.size ≤ smallLimit) :
    (write now).ComesTo (book, sink) (disk ≠ .sound) fun _ _ => True := by
  obtain ⟨_, ⟨v, zip⟩, packed, given⟩ | ⟨unsound, fault, ⟨v, zip⟩, failed⟩ :=
    (parts_written now book.styles h narrow sink).2 opened small
  · obtain ⟨sink', ended⟩ := (endArchive_reads given (by simp)).2 opened
    exact .of_ok (by rw [write_on now sheet packed, ended]) trivial
  · exact .inr ⟨unsound, fault, _, write_on now sheet failed⟩

end Workbook

end

end SheetExport
