import SheetExport.Number.Natural
import SheetExport.Cancellation.Basic

/-!
# Running cancellations

Several callers act on one registry at the same time, each on tasks of its own; `Machine.Step` lets any
one of them perform its next section. A single caller runs to the end of its tasks, since every section
takes away some of the weight of what remains to be done (`Registry.weight`).
-/

namespace SheetExport.Cancellation

/-- Callers with what each of them still has to do, and the registry that they share. -/
structure Machine where
  registry : Registry
  callers : List (List Task)

namespace Machine

/-- One caller performs the next section of its first task. -/
inductive Step : Machine → Machine → Prop where
  | intro (s : Registry) (before after : List (List Task)) (t : Task) (rest : List Task) :
      Step ⟨s, before ++ (t :: rest) :: after⟩
        ⟨(s.advance t).1, before ++ ((s.advance t).2 ++ rest) :: after⟩

/-- Any number of sections, by whichever callers. -/
inductive Steps : Machine → Machine → Prop where
  | refl (m : Machine) : Steps m m
  | step {a b c : Machine} (first : Step a b) (rest : Steps b c) : Steps a c

end Machine

mutual

/-- How many sections a command can give rise to, at most. -/
def Command.weight : Command → Nat
  | .register _ body => 4 + bodyWeight body
  | .registerNowhere _ body => 4 + bodyWeight body
  | _ => 3

/-- How many sections the commands of a callback can give rise to, at most. -/
def bodyWeight : List Command → Nat
  | [] => 0
  | c :: rest => c.weight + bodyWeight rest

end

/-- How many sections a callback that waits can give rise to, at most. -/
def Waiting.weight (w : Waiting) : Nat := 1 + bodyWeight w.body

/-- How many sections a task can give rise to, at most. -/
def Task.weight : Task → Nat
  | .command c _ => c.weight
  | .run w => w.weight
  | _ => 1

/-- How many sections tasks and waiting callbacks can give rise to, at most. -/
def Registry.weight (s : Registry) (tasks : List Task) : Nat :=
  (tasks.map Task.weight).sum + (s.waiting.map Waiting.weight).sum

namespace Registry

/-- The registry after up to `n` sections of the tasks, performed without interruption. -/
def runFor : Nat → Registry → List Task → Registry
  | 0, s, _ => s
  | _ + 1, s, [] => s
  | n + 1, s, t :: rest =>
      let (s, tasks) := s.advance t
      runFor n s (tasks ++ rest)

/-- The registry after all sections of the tasks, performed without interruption. -/
def run (s : Registry) (tasks : List Task) : Registry := runFor (s.weight tasks) s tasks

/-- A command of a caller whom nobody interrupts. -/
def command (s : Registry) (c : Command) : Answer × Registry :=
  let (answer, s, tasks) := s.perform c
  (answer, s.run tasks)

end Registry

end SheetExport.Cancellation
