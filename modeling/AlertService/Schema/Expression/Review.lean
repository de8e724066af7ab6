import AlertService.Schema.Expression.Basic

/-!
# What is wrong with an expression

Before an expression is computed for any row it is made simpler where one side of a junction does not
matter, and refused where it cannot be computed for any.
-/

namespace AlertService.Schema.Expression

/-- The truth value that a word stands for, if it names no column. Nothing is changed by an order that is
asked for, nor by what is said of how likely it is. -/
def truthWord? (row : Row) : Expression → Option Bool
  | collated e _ => truthWord? row e
  | call f [e] => if f.toLower = "likely" ∨ f.toLower = "unlikely" then truthWord? row e else none
  | name s false =>
    if (row.entry? s).isSome then none
    else if sameName s "true" then some true
    else if sameName s "false" then some false
    else none
  | _ => none

/-- The truth value that an integer stands for, or a word for one. -/
def settled? (row : Row) : Expression → Option Bool
  | number n => if n.isPlain then some (n.integer ≠ 0) else none
  | literal (.integer i) => some (i ≠ 0)
  | name s isQuoted => truthWord? row (name s isQuoted)
  | _ => none

/-- A junction without a side that does not matter. -/
def junction (row : Row) (op : Operator) (a b : Expression) : Expression :=
  if settled? row a = some true ∨ settled? row b = some false then
    if op = .and then b else a
  else if settled? row b = some true ∨ settled? row a = some false then
    if op = .and then a else b
  else binary op a b

/-- A condition without sides of junctions that do not matter. -/
def simplified (row : Row) : Expression → Expression
  | not e => not (simplified row e)
  | binary .and a b => junction row .and (simplified row a) (simplified row b)
  | binary .or a b => junction row .or (simplified row a) (simplified row b)
  | e => e

/-- What is wrong with comparing texts in an order. -/
def orderFault? : Collation → Option EngineFault
  | .unknown asked => some (.noCollation asked)
  | _ => none

/-- Whether an operator compares its sides in the order of texts. Truth is not compared so, nor is it
tested so whether something is nothing. -/
def compares (row : Row) (op : Operator) (b : Expression) : Bool :=
  match op, b with
  | .same, literal .null => false
  | .same, b => (truthWord? row b).isNone
  | .equal, _ => true
  | .less, _ => true
  | _, _ => false

/-- The functions that compare their arguments. -/
def comparingFunctions : List String := ["min", "max", "nullif"]

/-- The order of texts that a function uses: that of the first argument that has one. -/
def argumentOrder (row : Row) (es : List Expression) : Collation :=
  (es.findSome? (order? row)).getD .exact

mutual

/-- What is wrong with an expression over rows such as this one. -/
def refusal? (row : Row) : Expression → Option EngineFault
  | not e => refusal? row e
  | negate e => refusal? row e
  | invert e => refusal? row e
  | plain e => refusal? row e
  | bare e => refusal? row e
  | collated e _ => refusal? row e
  | cast e _ => refusal? row e
  | binary op a b =>
    (refusal? row a).orElse fun _ =>
      (refusal? row b).orElse fun _ =>
        if compares row op b then orderFault? (commonOrder row a b) else none
  | choice test value otherwise =>
    (refusal? row test).orElse fun _ =>
      (refusal? row value).orElse fun _ => refusal? row otherwise
  | call f es =>
    (firstRefusal? row es).orElse fun _ =>
      if comparingFunctions.contains f.toLower then orderFault? (argumentOrder row es) else none
  | misused => some .misusedRow
  | literal _ => none
  | number _ => none
  | name _ _ => none
  | refused _ => none
  | undetermined => none

/-- What is wrong with the first expression of a list that anything is wrong with. -/
def firstRefusal? (row : Row) : List Expression → Option EngineFault
  | [] => none
  | e :: es => (refusal? row e).orElse fun _ => firstRefusal? row es

end

end AlertService.Schema.Expression
