import TripleStore.Expr

/-!
# Events

What the store tells its log. An event is data; its message is made only when
somebody reads it.
-/

namespace TripleStore

inductive Level where
  | trace
  | debug
  | info
  | error
  deriving DecidableEq, Repr, Inhabited

def Level.text : Level → String
  | trace => "TRACE"
  | debug => "DEBUG"
  | info => "INFO"
  | error => "ERROR"

inductive Event where
  /-- An invalid statement was not stored. -/
  | rejected (s : Statement)
  | clearing (count : Nat)
  | imported (count : Nat)
  /-- A select is done. -/
  | selected (filter : Expr) (results all : Nat)
  /-- A nested select has become a set; repeats count. -/
  | resolved (projection : Term) (filter : Expr) (values : Nat)
  | dumping (count : Nat)
  | dumped (s : Statement)
  deriving DecidableEq, Repr, Inhabited

namespace Event

def level : Event → Level
  | rejected _ | clearing _ | imported _ | selected _ _ _ => .debug
  | resolved _ _ _ => .trace
  | dumping _ | dumped _ => .info

def message : Event → String
  | rejected s => "rejected invalid statement: " ++ s.line
  | clearing count => "clearing " ++ toString count ++ " statements"
  | imported count => "imported " ++ toString count ++ " statements"
  | selected filter results all =>
    "select " ++ filter.display ++ ": " ++ toString results ++ " of " ++ toString all ++
      " statements matched"
  | resolved projection filter values =>
    "resolved subquery " ++ Expr.displaySelect projection filter.display ++ " to " ++
      toString values ++ " values"
  | dumping count => "resource database: " ++ toString count ++ " statements"
  | dumped s => s.line

end Event

end TripleStore
