import SheetExport.Proofs.Export.Styles

/-! # Formats across the parts of a workbook

What is known of an archive here is what somebody finds who reads it back: the tags of the worksheet and those of the
style sheet. For an export that succeeded the formats of the cells are found through both parts. The number formats
among them are found as they are written; a reader who decodes them finds them all exactly if none is cut.
-/

namespace SheetExport

open Xml StyleSheet

variable {α σ ω : Type}

section

variable [Zip]

/-- The tags of a part of an archive. -/
def Zip.partTags? (bytes : ByteArray) (start : Nat) (name : String) : Option (List Tag) := do
  let part ← (part? bytes start name).toOption
  tags? (← String.fromUTF8? part.content)

theorem Zip.partTags?_of_part? {bytes : ByteArray} {start : Nat} {name text : String} {deflated large : Bool}
    (found : part? bytes start name = .ok ⟨name, deflated, large, text.toUTF8⟩) :
    partTags? bytes start name = tags? text := by
  have legible : String.fromUTF8? text.toUTF8 = some text := dif_pos text.isValidUTF8
  simp only [partTags?, found, Except.toOption, Option.bind_eq_bind, Option.bind_some, legible]

/-- The parts of an archive with the workbook of a table, as they are read back. -/
theorem Look.exists_partTags [Gzip] {look : Look} {schema : Schema α} {table : List (List CellValue)}
    {bytes : ByteArray} {start : Nat} {now : Timestamp} {title : String} {widths : List Nat}
    (read : Zip.parts? bytes start = .ok (Workbook.partsBefore now (look.styleSheet schema table) title ++
      [Workbook.worksheet title widths (look.rows schema (look.styleSheet schema table) table)])) :
    ∃ sheet styles, Zip.partTags? bytes start "xl/worksheets/sheet1.xml" = some sheet ∧
      Zip.partTags? bytes start "xl/styles.xml" = some styles ∧ Tagged look schema table sheet styles := by
  obtain ⟨sheet, styles, shown, formatted, tagged⟩ := exists_tagged look schema table title widths
  exact ⟨sheet, styles, (Zip.partTags?_of_part? (Workbook.part?_worksheet read)).trans shown,
    (Zip.partTags?_of_part? (Workbook.part?_styles read)).trans formatted, tagged⟩

end

/-- The number formats that values have without their columns are uncut, so those of the columns decide. -/
theorem Look.uncut_of_patterns {look : Look} {schema : Schema α} {table : List (List CellValue)}
    (uncut : ∀ p, some p ∈ schema.patterns → Uncut p.toList) {p : String} (used : look.Uses schema table p) :
    Uncut p.toList := by
  obtain ⟨-, -, -, column, v, -, shown⟩ := used
  rcases Option.or_eq_some_iff.mp shown with own | ⟨-, default⟩
  · exact uncut p (List.mem_of_getElem? (Option.join_eq_some_iff.mp own))
  · cases v with
    | date =>
        obtain rfl := Option.some.inj default
        decide
    | dateTime =>
        obtain rfl := Option.some.inj default
        decide
    | empty | text | int | float | bool => cases default

/-- The formats of an export that succeeded, whatever it was written to, as its archive is read back. Each cell has
    the number of a format that is as its header or its value asks for, by the number formats as they are written. By
    the number formats as they are read this is so exactly if none that a value uses is cut. -/
theorem formats_resolve [Gzip] [Zip] [LawfulGzip] [LawfulZip] (config : Config) (options : ExportOptions ω)
    (schema : Schema α) (source : Source σ ω α) (filter : Option Filter) (now : Timestamp) (own : σ) (world : ω)
    (output : Sink) (spillDisk : Except IoFault Disk)
    (succeeded : (exportTo config options schema source filter now own world output spillDisk).1 = .ok ()) :
    let written := (exportTo config options schema source filter now own world output spillDisk).2.output.content
    ∃ s entities table archive sheet styles,
      (source.opening filter).on (own, options.listen ⟨.starting, 0, 0⟩ world) = (.ok (), s) ∧
      Run.Taken source options config.flushBatch s (Run.rowLimit config) 0 entities ∧
      schema.tableOf 1 entities = .ok table ∧
      written = output.content ++ archive ∧
      Zip.partTags? written output.content.size "xl/worksheets/sheet1.xml" = some sheet ∧
      Zip.partTags? written output.content.size "xl/styles.xml" = some styles ∧
      ((numberFormats styles).map Prod.fst).Nodup ∧
      config.look.Resolves schema table (WrittenAs styles) sheet styles ∧
      (config.look.Resolves schema table (DeclaredOnce styles) sheet styles ↔
        ∀ p, config.look.Uses schema table p → Uncut p.toList) := by
  obtain ⟨s, entities, table, archive, opens, taken, found, content, read⟩ := exportTo_succeeded succeeded
  obtain ⟨sheet, styles, shown, formatted, tagged⟩ := Look.exists_partTags read
  exact ⟨s, entities, table, archive, sheet, styles, opens, taken, found, content, shown, formatted,
    tagged.read.ids_distinct, tagged.resolves fun _ _ denotes => tagged.read.written denotes,
    tagged.resolves_read_iff⟩

/-- Pairs of values, in columns with number formats. -/
def valuePairs (patterns : List (Option String)) : Schema (CellValue × CellValue) :=
  ⟨"S", "Pair", ["A", "B"], [], patterns, fun v => .ok [v.1, v.2]⟩

/-- A feed with nothing but a pair of numbers. -/
def onePair : Feed Unit (CellValue × CellValue) := .prepend #[.ok (.int 1, .int 2)] .nil

/-- The export of the pair succeeds, and its archive is read back as that of the row of the pair. -/
theorem onePair_exported (patterns : List (Option String))
    (small : (Xml.render (Config.default.look.styleSheet (valuePairs patterns) [[.int 1, .int 2]]).tokens).toUTF8.size ≤
      Zip.smallLimit) :
    let run := exportTo .default ⟨fun _ => false, fun _ w => w⟩ (valuePairs patterns)
      (Feed.plainSource "feed" (.ok onePair)) none midnight none () .unlimited
    run.1 = .ok () ∧ ∃ sheet styles,
      Zip.partTags? run.2.output.content 0 "xl/worksheets/sheet1.xml" = some sheet ∧
      Zip.partTags? run.2.output.content 0 "xl/styles.xml" = some styles ∧
      Config.default.look.Tagged (valuePairs patterns) [[.int 1, .int 2]] sheet styles := by
  have item (n : Nat) : onePair.item n = (if n = 0 then some (CellValue.int 1, CellValue.int 2) else none).map .ok := by
    cases n <;> rfl
  have title : mendSheetName "S" = "S" := by decide
  have found : (valuePairs patterns).tableOf 1 (firstItems (fun n => if n = 0 then some (.int 1, .int 2) else none)
      (Run.rowLimit .default)) = .ok [[.int 1, .int 2]] := rfl
  obtain ⟨succeeded, -, read⟩ := exportTo_yields .default ⟨fun _ => false, fun _ w => w⟩ (valuePairs patterns)
    (Feed.plainSource "feed" (.ok onePair)) none midnight none () .unlimited (show 2 ≤ maxColumns by decide) rfl
    (Feed.plainSource_yields "feed" item (fun _ => rfl) ()) ⟨rfl, rfl⟩ found (title.symm ▸ partsBefore_small small)
  exact ⟨succeeded, Look.exists_partTags read⟩

/-- With a number format of the first column that is not cut. -/
theorem formats_resolve_pair :
    let run := exportTo .default ⟨fun _ => false, fun _ w => w⟩ (valuePairs [some "0.000"])
      (Feed.plainSource "feed" (.ok onePair)) none midnight none () .unlimited
    run.1 = .ok () ∧ ∃ table sheet styles,
      Zip.partTags? run.2.output.content 0 "xl/worksheets/sheet1.xml" = some sheet ∧
      Zip.partTags? run.2.output.content 0 "xl/styles.xml" = some styles ∧
      Config.default.look.Resolves (valuePairs [some "0.000"]) table (DeclaredOnce styles) sheet styles := by
  have succeeded := (onePair_exported [some "0.000"] (by decide +kernel)).1
  refine ⟨succeeded, ?_⟩
  obtain ⟨_, _, table, _, sheet, styles, _, _, _, _, shown, formatted, _, _, read⟩ :=
    formats_resolve .default ⟨fun _ => false, fun _ w => w⟩ (valuePairs [some "0.000"])
      (Feed.plainSource "feed" (.ok onePair)) none midnight none () .unlimited (.ok .sound) succeeded
  have uncut (p : String) (own : some p ∈ (valuePairs [some "0.000"]).patterns) : Uncut p.toList := by
    obtain rfl := Option.some.inj (List.mem_singleton.mp own)
    decide
  exact ⟨table, sheet, styles, shown, formatted, read.mpr fun _ used => Look.uncut_of_patterns uncut used⟩

/-- Two number formats, one of them cut, that are written as one. -/
theorem cut_formats_unresolved :
    let run := exportTo .default ⟨fun _ => false, fun _ w => w⟩ (valuePairs [some "_x0001_", some "_x005F\x01"])
      (Feed.plainSource "feed" (.ok onePair)) none midnight none () .unlimited
    run.1 = .ok () ∧ ∃ sheet styles,
      Zip.partTags? run.2.output.content 0 "xl/worksheets/sheet1.xml" = some sheet ∧
      Zip.partTags? run.2.output.content 0 "xl/styles.xml" = some styles ∧
      numberFormats styles = [(164, "_x005F_x0001_".toList), (165, "_x005F_x0001_".toList)] ∧
      ¬ Config.default.look.Resolves (valuePairs [some "_x0001_", some "_x005F\x01"]) [[.int 1, .int 2]]
        (DeclaredOnce styles) sheet styles := by
  obtain ⟨succeeded, sheet, styles, shown, formatted, tagged⟩ :=
    onePair_exported [some "_x0001_", some "_x005F\x01"] (by decide +kernel)
  refine ⟨succeeded, sheet, styles, shown, formatted, tagged.read.table, fun resolves => ?_⟩
  have used : Config.default.look.Uses (valuePairs [some "_x0001_", some "_x005F\x01"]) [[.int 1, .int 2]]
      "_x005F\x01" := ⟨by decide, _, List.mem_singleton_self _, 1, .int 2, rfl, rfl⟩
  exact absurd (tagged.resolves_read_iff.mp resolves _ used) (by decide)

end SheetExport
