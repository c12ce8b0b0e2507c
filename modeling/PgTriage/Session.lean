/-
Sessions: calls on several classifiers, one after another.

The classifiers of an application count into one set of counters.  A session runs its
steps in order and tells for each what it answered, what it logged, and where the
counters stand after it.
-/
import PgTriage.Classifier.Basic

namespace PgTriage

/-- A call on a classifier. -/
inductive Call where
  | accepts (f : Failure)
  | classify (f : Failure)
  | classifyOrPass (f : Failure)
  | classifyEvent (e : Event)
  | eventOf (f : Failure)
  | dialect
  | describe
  | settle (outcome : Except Failure String)

/-- What a call answers. -/
inductive Answer where
  | accepted (yes : Bool)
  | classification (outcome : Except Rejection Classified)
  | passed (f : Failure)
  | classified (c : Classified)
  | event (e : Option Event)
  | text (s : String)
  | settled (outcome : Except Failure String)

/-- The answer of a classifier to a call. -/
def Classifier.answer (c : Classifier) : Call → Recorded Answer
  | .accepts f => (c.accepts f).map .accepted
  | .classify f => (c.classify f).map .classification
  | .classifyOrPass f => (c.classifyOrPass f).map .passed
  | .classifyEvent e => (c.classifyEvent e).map .classified
  | .eventOf f => .silent (.event f.event?)
  | .dialect => .silent (.text c.dialect)
  | .describe => .silent (.text c.describe)
  | .settle outcome => (c.settle outcome).map .settled

namespace Session

/-- A step of a session: a classifier and the call made on it. -/
structure Step where
  classifier : Classifier
  call : Call

/-- What is known after a step. -/
structure Report where
  answer : Answer
  log : List LogEvent
  counters : Counters

/-- The reports of the steps, from where the counters stand. -/
def run (counters : Counters) : List Step → List Report
  | [] => []
  | s :: rest =>
    let r := s.classifier.answer s.call
    let counters := counters.bumpAll r.tallies
    ⟨r.value, r.log, counters⟩ :: run counters rest

/-- Where the counters stand after the steps. -/
def countersAfter (counters : Counters) (steps : List Step) : Counters :=
  steps.foldl (fun k s => k.bumpAll (s.classifier.answer s.call).tallies) counters

end Session

end PgTriage
