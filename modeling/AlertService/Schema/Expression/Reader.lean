import AlertService.Schema.Expression.Basic

/-!
# Reading expressions

Operators bind with different strength, and of two that bind alike the first is applied first. Several
expressions in brackets are compared one by one. What is not known here is read as an expression
without a determined value.
-/

namespace AlertService.Schema.Expression

/-- What is read: one expression, or several in brackets. -/
abbrev Term := List Expression

/-- The expression is the word for the truth value that holds. -/
def namesTrue : Expression → Bool
  | name s false => sameName s "true"
  | _ => false

/-- The expression is a word for a truth value. -/
def isTruthWord : Expression → Bool
  | name s false => sameName s "true" || sameName s "false"
  | _ => false

namespace Term

/-- The only expression of a term. -/
def single : Term → Expression
  | [e] => e
  | _ => .misused

/-- What terms in brackets are together. -/
def together : List Term → Term
  | [t] => t
  | ts => ts.map single

/-- Joins what a comparison makes of the pairs of expressions of two terms. -/
def pairwise (compare : Expression → Expression → Expression) : Term → Term → Expression
  | [a], [b] => compare a b
  | a :: as, b :: bs => .binary .and (compare a b) (pairwise compare as bs)
  | _, _ => .misused

def equal : Term → Term → Expression := pairwise (.binary .equal)

/-- Several expressions are compared with several; a word for a truth value is not tested then. -/
def same : Term → Term → Expression
  | [a], [b] => .binary .same a b
  | as, bs => pairwise (fun a b => .binary .same a (if isTruthWord b then .plain b else b)) as bs

/-- The first pair that differs decides. -/
def less : Term → Term → Expression
  | [a], [b] => .binary .less a b
  | a :: as, b :: bs =>
    .binary .or (.binary .less a b) (.binary .and (.binary .equal a b) (less as bs))
  | _, _ => .misused

end Term

/-- What an operator makes of its two sides. -/
abbrev Combination := Term → Term → Expression

/-- An operator at the head: how strongly it binds, what it makes of its sides, and the lexemes after
it. -/
structure Head where
  strength : Nat
  combine : Combination
  rest : List Lexeme

/-- An operator between single expressions. -/
def simply (op : Operator) : Combination := fun a b => .binary op a.single b.single

/-- A function of two sides, which are single expressions. -/
def callOf (function : String) : Combination := fun a b => .call function [a.single, b.single]

/-- The operator that a mark stands for. -/
def markCombination? (mark : List Char) : Option (Nat × Combination) :=
  [("=", 4, Term.equal), ("==", 4, Term.equal), ("<>", 4, fun a b => not (Term.equal a b)),
   ("!=", 4, fun a b => not (Term.equal a b)), ("<", 5, Term.less),
   (">", 5, fun a b => Term.less b a), ("<=", 5, fun a b => not (Term.less b a)),
   (">=", 5, fun a b => not (Term.less a b)), ("&", 6, simply .allBits), ("|", 6, simply .anyBits),
   ("<<", 6, simply .shiftLeft), (">>", 6, simply .shiftRight), ("+", 7, simply .add),
   ("-", 7, simply .subtract), ("*", 8, simply .multiply), ("/", 8, simply .divide),
   ("%", 8, simply .remainder), ("||", 9, simply .join), ("->", 9, callOf "->"),
   ("->>", 9, callOf "->>")].findSome?
    fun (m, strength, combine) =>
      if String.toList m = mark then some (strength, (combine : Combination)) else none

/-- The comparison behind the word for sameness, with the lexemes after it. -/
def samenessAfter (ls : List Lexeme) : Combination × List Lexeme :=
  let distinct? (ls : List Lexeme) := (Lexeme.afterWord? "distinct" ls).bind (Lexeme.afterWord? "from")
  match distinct? ls, Lexeme.afterWord? "not" ls with
  | some r, _ => (fun a b => not (Term.same a b), r)
  | none, some r =>
    match distinct? r with
    | some r => (Term.same, r)
    | none => (fun a b => not (Term.same a b), r)
  | none, none => (Term.same, ls)

/-- The operator at the head of the lexemes. -/
def head? : List Lexeme → Option Head
  | [] => none
  | l :: r =>
    if l.isWord "or" then some ⟨1, simply .or, r⟩
    else if l.isWord "and" then some ⟨2, simply .and, r⟩
    else if l.isWord "is" then
      let (combine, r) := samenessAfter r
      some ⟨4, combine, r⟩
    else if l.kind = .mark then
      (markCombination? l.source).map fun (strength, combine) => ⟨strength, combine, r⟩
    else none

/-- A test of one side at the head, and the lexemes after it. -/
def test? : List Lexeme → Option ((Expression → Expression) × List Lexeme)
  | l :: r =>
    let isNull (e : Expression) : Expression := .binary .same e (.literal .null)
    if l.isWord "isnull" then some (isNull, r)
    else if l.isWord "notnull" then some (fun e => not (isNull e), r)
    else if l.isWord "not" && r.head?.any (·.isWord "null") then
      some (fun e => not (isNull e), r.tail)
    else none
  | [] => none

/-- One of the words at the head, whether it is denied by another before it, and the lexemes after
it. -/
def denied? (words : List String) : List Lexeme → Option (String × Bool × List Lexeme)
  | l :: r =>
    match words.find? l.isWord, r with
    | some word, _ => some (word, false, r)
    | none, m :: rest =>
      if l.isWord "not" then (words.find? m.isWord).map fun word => (word, true, rest) else none
    | none, [] => none
  | [] => none

def collationNamed (s : String) : Collation :=
  (([("binary", Collation.exact), ("nocase", .caseless), ("rtrim", .trimmed)].find?
    fun o => sameName o.1 s).map (·.2)).getD (.unknown s)

/-- The digits of a number, without the lines between them. -/
def digitsOf (l : Lexeme) : List Char := l.source.filter (· ≠ '_')

/-- The number that a lexeme writes, in base sixteen behind its mark. -/
def numberOf (l : Lexeme) : Expression :=
  match digitsOf l with
  | '0' :: 'x' :: ds => hexadecimal ds
  | '0' :: 'X' :: ds => hexadecimal ds
  | cs => ((Numeral.take? cs).map fun n => Expression.number n.1).getD .undetermined
where
  hexadecimal (ds : List Char) : Expression :=
    let n := ds.foldl (fun n c => n * 16 + ((Text.hexValue? c).map Fin.val).getD 0) 0
    .literal (.integer ((n : Int).bmod 18446744073709551616))

/-- The bytes that a lexeme writes. -/
def bytesOf (l : Lexeme) : Expression :=
  let rec pairs : List Char → Bytes
    | c :: d :: r =>
      let digit (x : Char) : Nat := ((Text.hexValue? x).map Fin.val).getD 0
      UInt8.ofNat (digit c * 16 + digit d) :: pairs r
    | _ => []
  .literal (.blob (pairs ((l.source.drop 2).dropLast)))

/-- The words for the time. -/
def timeWords : List String := ["current_date", "current_time", "current_timestamp"]

/-- The expression that a single lexeme is. -/
def ofLexeme (l : Lexeme) : Expression :=
  match l.kind with
  | .number => numberOf l
  | .bytes => bytesOf l
  | .text => .literal (.text l.name)
  | .quoted => .name l.name (l.source.head?.any fun c => c.toNat = 34)
  | .word =>
    if l.isWord "null" then .literal .null
    else if l.isAnyOf timeWords then .call l.name []
    else .name l.name false
  | .mark => .undetermined

def denial (isDenied : Bool) (e : Expression) : Expression := if isDenied then not e else e

/-- Choices between what follows tests; nothing where no test is met. -/
def choices : List Expression → Expression
  | test :: value :: r => .choice test value (choices r)
  | [otherwise] => otherwise
  | [] => .literal .null

/-- The first of a list that is not nothing. -/
def firstValue : List Expression → Expression
  | [] => .literal .null
  | [e] => e
  | e :: es => .choice (not (.binary .same e (.literal .null))) e (firstValue es)

/-- The functions whose values are documents. -/
def documentMakers : List String :=
  ["json", "json_array", "json_object", "json_quote", "json_insert", "json_replace", "json_set",
   "json_remove", "json_patch", "->"]

/-- How a function that makes a document takes an argument: always for a document, for one if it is a
list or has members, or for its value. -/
def documentMark : Expression → Char
  | call f _ =>
    if documentMakers.contains f.toLower then '1'
    else if ["json_extract", "->>"].contains f.toLower then '2'
    else '0'
  | _ => '0'

/-- A call of a function that is also told how to take its arguments. -/
def making (function : String) (es : List Expression) : Expression :=
  .call function (.literal (.text (.ofList (es.map documentMark))) :: es)

/-- A call of a function. Some functions choose between their arguments. -/
def calling (function : String) (es : List Expression) : Expression :=
  match function.toLower with
  | "json_array" => making function es
  | "json_object" => making function es
  | "json_quote" => making function es
  | "json_insert" => making function es
  | "json_replace" => making function es
  | "json_set" => making function es
  | "coalesce" => firstValue es
  | "ifnull" => firstValue es
  | "iif" => choices es
  | "if" => choices es
  | _ => .call function es

/-- The value is one of a list. A list of one constant is compared as any other expression, and a word
for a truth value is one even where a column has its name. -/
def among (e : Term) : List Expression → Expression
  | [] => .literal (.integer 0)
  | [m] =>
    if isTruthWord m then
      Term.equal e [.literal (.integer (if namesTrue m then 1 else 0))]
    else if isConstant m then Term.equal e [.plain m] else Term.equal e [.bare m]
  | m :: ms => ms.foldl (fun found m => .binary .or found (Term.equal e [.bare m]))
      (Term.equal e [.bare m])

mutual

/-- Reads an expression without operators, or one behind signs. -/
def operand : (fuel : Nat) → List Lexeme → Option (Term × List Lexeme)
  | 0, _ => none
  | _, [] => none
  | fuel + 1, l :: r =>
    let unary (f : Expression → Expression) (p : Term × List Lexeme) : Term × List Lexeme :=
      ([f p.1.single], p.2)
    if l.isWord "not" then (climb fuel 3 r).map (unary not)
    else if l.isMark "-" then (operand fuel r).map (unary negate)
    else if l.isMark "+" then (operand fuel r).map (unary plain)
    else if l.isMark "~" then (operand fuel r).map (unary invert)
    else if l.isMark "(" then do
      let (ts, r) ← list fuel r
      return (Term.together ts, ← Lexeme.after? ")" r)
    else if l.kind = .mark then none
    else if l.isWord "case" then do
      match Lexeme.afterWord? "when" r with
      | some _ =>
        let (e, r) ← branches fuel none r
        return ([e], r)
      | none =>
        let (subject, r) ← climb fuel 0 r
        let (e, r) ← branches fuel (some subject) r
        return ([e], r)
    else
      match Lexeme.after? "(" r, Lexeme.after? "." r with
      | some r, _ =>
        if l.isWord "cast" then do
          let (e, r) ← climb fuel 0 r
          let (type, r) := Lexeme.enclosed 0 (← Lexeme.afterWord? "as" r)
          return ([.cast e.single (.ofType (.ofList (Lexeme.writtenAlone type)))],
            ← Lexeme.after? ")" r)
        else
          match Lexeme.after? ")" r with
          | some r => some ([calling l.name []], r)
          | none => do
            let (ts, r) ← list fuel r
            return ([calling l.name (ts.map Term.single)], ← Lexeme.after? ")" r)
      | none, some (m :: r) => operand fuel (m :: r)
      | none, _ => some ([ofLexeme l], r)

/-- Reads terms between commas. -/
def list : (fuel : Nat) → List Lexeme → Option (List Term × List Lexeme)
  | 0, _ => none
  | fuel + 1, ls => do
    let (e, r) ← climb fuel 0 ls
    match Lexeme.after? "," r with
    | none => return ([e], r)
    | some r =>
      let (ts, r) ← list fuel r
      return (e :: ts, r)

/-- Reads the branches of a choice, up to its end. -/
def branches : (fuel : Nat) → (subject : Option Term) → List Lexeme →
    Option (Expression × List Lexeme)
  | 0, _, _ => none
  | fuel + 1, subject, ls =>
    match Lexeme.afterWord? "when" ls, Lexeme.afterWord? "else" ls with
    | some r, _ => do
      let (test, r) ← climb fuel 0 r
      let (value, r) ← climb fuel 0 (← Lexeme.afterWord? "then" r)
      let (otherwise, r) ← branches fuel subject r
      let test := (subject.map fun s => Term.equal s test).getD test.single
      return (.choice test value.single otherwise, r)
    | none, some r => do
      let (e, r) ← climb fuel 0 r
      return (e.single, ← Lexeme.afterWord? "end" r)
    | none, none => (Lexeme.afterWord? "end" ls).map fun r => (.literal .null, r)

/-- Reads an expression of operators that bind at least so strongly. -/
def climb : (fuel : Nat) → (least : Nat) → List Lexeme → Option (Term × List Lexeme)
  | 0, _, _ => none
  | fuel + 1, least, ls => do
    let (e, r) ← operand fuel ls
    continued fuel least e r

/-- Reads the operators behind an expression, and their other sides. -/
def continued : (fuel : Nat) → (least : Nat) → Term → List Lexeme → Option (Term × List Lexeme)
  | 0, _, _, _ => none
  | fuel + 1, least, e, ls =>
    if least ≤ 4 then
      match test? ls, denied? ["between", "in", "like", "glob", "match"] ls with
      | some (test, r), _ => continued fuel least [test e.single] r
      | none, some ("between", isDenied, r) => do
        let (low, r) ← climb fuel 3 r
        let (high, r) ← climb fuel 5 (← Lexeme.afterWord? "and" r)
        let inside := binary .and (not (Term.less e low)) (not (Term.less high e))
        continued fuel least [denial isDenied inside] r
      | none, some ("in", isDenied, r) => do
        let r ← Lexeme.after? "(" r
        let (ts, r) ←
          match Lexeme.after? ")" r with
          | some _ => some ([], r)
          | none => list fuel r
        let found := among e (ts.map Term.single)
        continued fuel least [denial isDenied found] (← Lexeme.after? ")" r)
      | none, some ("match", _, r) => do
        let (_, r) ← climb fuel 5 r
        continued fuel least [.refused (.unusable "MATCH")] r
      | none, some (word, isDenied, r) => do
        let (pattern, r) ← climb fuel 5 r
        match Lexeme.afterWord? "escape" r with
        | some r =>
          let (escape, r) ← climb fuel 5 r
          let found := call word [pattern.single, e.single, escape.single]
          continued fuel least [denial isDenied found] r
        | none =>
          continued fuel least [denial isDenied (call word [pattern.single, e.single])] r
      | none, none => binaries fuel least e ls
    else binaries fuel least e ls

/-- Reads the order that is asked for behind an expression, or an operator with two sides. -/
def binaries : (fuel : Nat) → (least : Nat) → Term → List Lexeme → Option (Term × List Lexeme)
  | 0, _, _, _ => none
  | fuel + 1, least, e, ls =>
    match Lexeme.afterWord? "collate" ls with
    | some (l :: r) =>
      continued fuel least [collated e.single (collationNamed l.name)] r
    | some [] => none
    | none =>
      match head? ls with
      | some h =>
        if least ≤ h.strength then do
          let (b, r) ← climb fuel (h.strength + 1) h.rest
          continued fuel least [h.combine e b] r
        else some (e, ls)
      | none => some (e, ls)

end

/-- As many steps as reading can take. -/
def steps (ls : List Lexeme) : Nat := 16 * (ls.length + 1)

/-- The expression that the lexemes write. -/
def ofLexemes (ls : List Lexeme) : Expression :=
  match climb (steps ls) 0 ls with
  | some (e, []) => e.single
  | _ => undetermined

end AlertService.Schema.Expression
