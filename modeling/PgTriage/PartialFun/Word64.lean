/-
Partial functions on 64-bit words.

The leaves of a term over signed 64-bit words: tests, total functions that wrap at the
ends of the range, and optional functions that have no value where the exact result
leaves the range or a division is not exact.  A query is one question put to the
function a term stands for.
-/
import PgTriage.PartialFun.Term

namespace PgTriage.PartialFun.Word64

/-- A test on a word. -/
inductive Test where
  | greater (n : Int64)
  | less (n : Int64)
  | equal (n : Int64)
  | divisibleBy (n : Int64)
deriving DecidableEq, Repr

/-- Whether the word passes the test. -/
def Test.holds : Test → Int64 → Bool
  | .greater n, x => n < x
  | .less n, x => x < n
  | .equal n, x => x == n
  | .divisibleBy n, x => x % n == 0

/-- A total function on words. -/
inductive Fun where
  | add (n : Int64)
  | mul (n : Int64)
  | const (n : Int64)
deriving DecidableEq, Repr

/-- The value of the function, wrapped into the range. -/
def Fun.eval : Fun → Int64 → Int64
  | .add n, x => x + n
  | .mul n, x => x * n
  | .const n, _ => n

/-- An optional function on words. -/
inductive OptFun where
  | exactDiv (n : Int64)
  | checkedAdd (n : Int64)
  | checkedMul (n : Int64)
deriving DecidableEq, Repr

/-- The word of an integer that lies in the range. -/
def ofInt? (i : Int) : Option Int64 :=
  if (Int64.ofInt i).toInt = i then some (.ofInt i) else none

/--
The exact quotient, sum or product, if there is one and it lies in the range.  The
least word divided by minus one leaves the range.
-/
def OptFun.eval : OptFun → Int64 → Option Int64
  | .exactDiv n, x =>
    if n.toInt ≠ 0 ∧ n.toInt ∣ x.toInt then ofInt? (x.toInt / n.toInt) else none
  | .checkedAdd n, x => ofInt? (x.toInt + n.toInt)
  | .checkedMul n, x => ofInt? (x.toInt * n.toInt)

/-- What the observers of a term on words see: their label and the word. -/
abbrev Observation := String × Int64

/-- Terms over words with labelled observers. -/
abbrev Term := PartialFun.Term Observation Int64 Int64

/-- A term on words, written down: its leaves are those above, its observers have labels. -/
inductive Expr where
  | guard (p : Test) (f : Fun)
  | total (f : Fun)
  | unlift (f : OptFun)
  | relift (e : Expr)
  | orElse (e d : Expr)
  | andThen (e : Expr) (f : Fun)
  | compose (e : Expr) (f : Fun)
  | composePartial (e d : Expr)
  | logged (e : Expr) (label : String)
deriving DecidableEq, Repr

/-- The term that is written down. -/
def Expr.toTerm : Expr → Term
  | .guard p f => .guard p.holds f.eval
  | .total f => .total f.eval
  | .unlift f => .unlift f.eval
  | .relift e => .relift e.toTerm
  | .orElse e d => .orElse e.toTerm d.toTerm
  | .andThen e f => .andThen e.toTerm f.eval
  | .compose e f => .compose e.toTerm f.eval
  | .composePartial e d => .composePartial e.toTerm d.toTerm
  | .logged e label => .logged e.toTerm fun x => (label, x)

/-- A question put to a partial function on words. -/
inductive Query where
  | isDefinedAt (x : Int64)
  | apply (x : Int64)
  | tryApply (x : Int64)
  | lift (x : Int64)
  | applyOrElse (x : Int64) (fallback : Fun)
deriving DecidableEq, Repr

/-- The answer to a query. -/
inductive Answer where
  | bool (b : Bool)
  | word (x : Int64)
  | optional (x : Option Int64)
  | undefined (e : NotDefined)
deriving DecidableEq, Repr

/-- The answer of a partial function, with what its observers saw. -/
def ask (f : PartialFun Observation Int64 Int64) : Query → Traced Observation Answer
  | .isDefinedAt x => .bool <$> f.isDefinedAt x
  | .apply x =>
    (fun | .ok y => .word y | .error e => .undefined e) <$> f.apply x
  | .tryApply x => .optional <$> f.tryApply x
  | .lift x => .optional <$> f.lift x
  | .applyOrElse x fallback => .word <$> f.applyOrElse x fallback.eval

end PgTriage.PartialFun.Word64
