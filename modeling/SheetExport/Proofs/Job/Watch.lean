import SheetExport.Job.Worker
import SheetExport.Proofs.Export.Whole
import SheetExport.Proofs.Job.Record
import SheetExport.Proofs.Job.Work

/-! # Watching a job in the midst of an export

The world of a worker is a home of jobs beside the state of a storage. Progress that is told goes into the record
of the job and into the watch over it; nothing else in the world changes.
-/

namespace SheetExport

variable {σ F α : Type} {home : JobHome} {id : String} {v : JobView}

def JobHome.storeBeside (home : JobHome) (F : Type) : JobStore (home.State × F) :=
  home.store.within Prod.fst fun s p => (s, p.2)

/-- What an export for a job is told. -/
def JobHome.options (home : JobHome) (F : Type) (id : String) : ExportOptions (JobWatch × (home.State × F)) where
  stopRequested s := s.1.stopRequested
  listen p s := (JobWatch.hear (home.storeBeside F) id p s).2

namespace JobHome

theorem stopRequested_options (home : JobHome) (s : JobWatch × (home.State × F)) :
    (home.options F id).stopRequested s = s.1.stopRequested := rfl

theorem listen_on {p : Progress} (told : p.phase ≠ .starting) (watch : JobWatch) {jobs : home.State}
    (files : F) (held : home.Holds id v jobs) :
    ∃ jobs', (home.options F id).listen p (watch, (jobs, files)) =
        (⟨p.rows, p.batches, watch.stopRequested || (JobWatch.asks p.phase && v.cancelRequested)⟩, (jobs', files)) ∧
      home.Holds id { v with rows := p.rows, batches := p.batches } jobs' := by
  obtain ⟨jobs₁, noted, held₁⟩ := JobHome.setProgress_on held p.rows p.batches
  obtain ⟨jobs₂, looked, held₂⟩ := JobHome.cancelRequested_on held₁
  have noting : ((home.storeBeside F).setProgress id p.rows p.batches).on (jobs, files) = (.ok (), jobs₁, files) := by
    rw [JobHome.storeBeside, JobStore.within, ActionOf.on_within, noted]
  have looking : ((home.storeBeside F).cancelRequested id).on (jobs₁, files) =
      (.ok v.cancelRequested, jobs₂, files) := by
    rw [JobHome.storeBeside, JobStore.within, ActionOf.on_within, looked]
  have heard := JobWatch.hear_on told watch noting
  rw [looking] at heard
  cases asked : JobWatch.asks p.phase with
  | false =>
      rw [asked, if_neg Bool.false_ne_true] at heard
      exact ⟨jobs₁, by rw [Bool.false_and, Bool.or_false]; exact heard, held₁⟩
  | true =>
      rw [asked, if_pos rfl] at heard
      exact ⟨jobs₂, by rw [Bool.true_and]; exact heard, held₂⟩

end JobHome

end SheetExport
