import AlertService.Text.Digits

/-!
# Addresses to listen at

An address is four numbers joined by points, or eight groups joined by colons and put in brackets,
the longest run of zero groups left out; a port follows.
-/

namespace AlertService

inductive Address where
  | v4 (octets : List Nat) (port : Nat)
  | v6 (groups : List Nat) (scope port : Nat)
deriving DecidableEq

namespace Address

/-! ## Reading -/

/-- The value of a digit in the given base, ten or sixteen. -/
def digit? (base : Nat) (c : Char) : Option Nat :=
  (Text.hexValue? c).bind fun d => if d.val < base then some d.val else none

/-- A number of at most `width` digits. -/
def readNumber (base width : Nat) (leadingZeros : Bool) (cs : List Char) :
    Option (Nat × List Char) :=
  let ds := (cs.takeWhile fun c => (digit? base c).isSome).filterMap (digit? base)
  if ds.isEmpty ∨ width < ds.length ∨ (!leadingZeros ∧ ds.head? = some 0 ∧ 1 < ds.length) then none
  else some (ds.foldl (fun n d => n * base + d) 0, cs.drop ds.length)

/-- A number below 256 without leading zeros. -/
def readOctet (cs : List Char) : Option (Nat × List Char) :=
  (readNumber 10 3 false cs).filter fun r => r.1 < 256

def readMark (mark : Char) : List Char → Option (List Char)
  | c :: cs => if c = mark then some cs else none
  | [] => none

/-- Four numbers joined by points. -/
def readOctets (cs : List Char) : Option (List Nat × List Char) := do
  let (a, cs) ← readOctet cs
  let cs ← readMark '.' cs
  let (b, cs) ← readOctet cs
  let cs ← readMark '.' cs
  let (c, cs) ← readOctet cs
  let cs ← readMark '.' cs
  let (d, cs) ← readOctet cs
  return ([a, b, c, d], cs)

/-- The text after the colon that stands between groups. -/
def afterColon (first : Bool) (cs : List Char) : Option (List Char) :=
  if first then some cs else readMark ':' cs

/-- The two groups that four numbers fill. -/
def groupsOfOctets : List Nat → List Nat
  | [a, b, c, d] => [a * 256 + b, c * 256 + d]
  | _ => []

/-- At most `limit` groups; says whether the last two were written as four numbers, which has to
leave room for them. -/
def readGroups : (limit : Nat) → (first : Bool) → List Char → List Nat × Bool × List Char
  | 0, _, cs => ([], false, cs)
  | limit + 1, first, cs =>
    match if 0 < limit then (afterColon first cs).bind readOctets else none with
    | some (octets, rest) => (groupsOfOctets octets, true, rest)
    | none =>
      match (afterColon first cs).bind (readNumber 16 4 true) with
      | some (g, rest) =>
        let (gs, octets, rest) := readGroups limit false rest
        (g :: gs, octets, rest)
      | none => ([], false, cs)

/-- Eight groups, of which two colons stand for at least one group of zeros. -/
def readEight (cs : List Char) : Option (List Nat × List Char) :=
  let (head, octets, rest) := readGroups 8 true cs
  if head.length = 8 then some (head, rest)
  else if octets then none
  else do
    let rest ← (readMark ':' rest).bind (readMark ':')
    let (tail, _, rest) := readGroups (7 - head.length) true rest
    return (head ++ List.replicate (8 - head.length - tail.length) 0 ++ tail, rest)

/-- A number below `2 ^ 32` after a percent sign; zero without one. -/
def readScope (cs : List Char) : Nat × List Char :=
  match cs with
  | '%' :: r =>
    match (readNumber 10 r.length true r).filter fun r => r.1 < UInt32.size with
    | some r => r
    | none => (0, cs)
  | _ => (0, cs)

/-- A colon and a port, with which the text ends. -/
def readPort (cs : List Char) : Option Nat := do
  let cs ← readMark ':' cs
  let (port, rest) ← readNumber 10 cs.length true cs
  if rest.isEmpty ∧ port < UInt16.size then some port else none

def parse? (s : String) : Option Address :=
  match readOctets s.toList with
  | some (octets, rest) => (readPort rest).map (.v4 octets)
  | none => do
    let cs ← readMark '[' s.toList
    let (groups, cs) ← readEight cs
    let (scope, cs) := readScope cs
    let cs ← readMark ']' cs
    return .v6 groups scope (← readPort cs)

/-! ## Writing -/

def joinWith (mark : String) (ns : List Nat) (base : Nat) : String :=
  mark.intercalate (ns.map fun n => String.ofList (Nat.toDigits base n))

/-- The length of the run of zeros at the head. -/
def zeroRun (gs : List Nat) : Nat := (gs.takeWhile (· = 0)).length

/-- Where the longest run of zeros starts, and its length; the first one of several. -/
def longestRun : (start : Nat) → List Nat → Nat × Nat
  | start, [] => (start, 0)
  | start, g :: gs =>
    let here := zeroRun (g :: gs)
    let later := longestRun (start + 1) gs
    if later.2 ≤ here then (start, here) else later

def groupsText (gs : List Nat) : String :=
  match gs with
  | [0, 0, 0, 0, 0, 0xffff, a, b] =>
    "::ffff:" ++ joinWith "." [a / 256, a % 256, b / 256, b % 256] 10
  | _ =>
    let (start, size) := longestRun 0 gs
    if 2 ≤ size then joinWith ":" (gs.take start) 16 ++ "::" ++ joinWith ":" (gs.drop (start + size)) 16
    else joinWith ":" gs 16

def text : Address → String
  | .v4 octets port => joinWith "." octets 10 ++ ":" ++ toString port
  | .v6 groups scope port =>
    "[" ++ groupsText groups ++ (if scope = 0 then "" else "%" ++ toString scope) ++ "]:" ++
      toString port

end Address

end AlertService
