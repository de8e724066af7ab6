import AlertService.Schema.Function.Document

/-!
# Changes of documents

A part of a document is taken out, replaced or added where a path leads. A document is also changed by
another one, whose members replace those of the same keys; nothing takes a member out.
-/

namespace AlertService.Schema

namespace Document

/-! ## One part -/

inductive Amendment where
  | remove
  | replace (d : Document)
  | insert (d : Document)
  | put (d : Document)

/-- What a change comes to: the path leads nowhere, it is written wrongly, or the document is another one
or none. -/
inductive Amended where
  | kept
  | wrongPath
  | changed (d : Option Document)

namespace Amendment

/-- The document that is added where there is none. -/
def added? : Amendment → Option Document
  | insert d => some d
  | put d => some d
  | _ => none

/-- What a change does to the part that its path leads to. -/
def onPart (e : Amendment) (d : Document) : Option Document :=
  match e with
  | remove => none
  | replace new => some new
  | insert _ => some d
  | put new => some new

end Amendment

/-- Goes on to the document around a changed part. -/
def Amended.around (f : Option Document → Document) : Amended → Amended
  | kept => kept
  | wrongPath => wrongPath
  | changed d => changed (some (f d))

/-- A list with another document in a place, or without that place. -/
def withItem (ds : List Document) (k : Nat) : Option Document → List Document
  | some d => ds.set k d
  | none => ds.eraseIdx k

/-- Members with another document behind the first of that key, or without that member. -/
def withMember (key : List Char) (d : Option Document) :
    List (List Char × Document) → List (List Char × Document)
  | [] => []
  | m :: ms =>
    if plainText m.1 = key then
      match d with
      | some d => (m.1, d) :: ms
      | none => ms
    else m :: withMember key d ms

/-- The document of a key. -/
def member? (key : List Char) (ms : List (List Char × Document)) : Option Document :=
  (ms.find? fun m => plainText m.1 = key).map (·.2)

/-- The empty document that has parts of the kind that a step leads to. -/
def emptyFor : Step → Document
  | .key _ => .members []
  | _ => .list []

/-- Makes a change where a path leads. Only at the end of a list and behind the last member there is place
for more. -/
def amend (e : Amendment) : List Step → Document → Amended
  | [], d => .changed (e.onPart d)
  | s :: path, d =>
    let onward (d : Document) : Amended := amend e path d
    let fresh : Amended :=
      match e.added?, path with
      | none, _ => .kept
      | some new, [] => .changed (some new)
      | some _, t :: _ => onward (emptyFor t)
    let inList (k : Nat) (ds : List Document) : Amended :=
      match ds[k]? with
      | some part => (onward part).around fun d => .list (withItem ds k d)
      | none => if k = ds.length then fresh.around fun d => .list (ds ++ d.toList) else .kept
    match s, d with
    | .key k, .members ms =>
      match member? k ms with
      | some part => (onward part).around fun d => .members (withMember k d ms)
      | none =>
        fresh.around fun d => .members (ms ++ (d.map fun d => (k.flatMap writtenChar, d)).toList)
    | .place n, .list ds => inList n ds
    | .fromEnd n, .list ds => if n ≤ ds.length then inList (ds.length - n) ds else .kept
    | .wrongPlace, .list _ => .wrongPath
    | .wrong, _ => .wrongPath
    | _, _ => .kept

/-- The document after a change, nothing if none is left. -/
def amended (e : Amendment) (p : String) (d : Document) : Outcome (Option Document) :=
  let written := Pattern.visible p
  match amend e (path written) d with
  | .kept => .ok (some d)
  | .changed d => .ok d
  | .wrongPath => .error (.fault (.badPath (.ofList (Function.quotedText written))))

/-! ## Whole documents -/

mutual

/-- The document that another one makes of it. -/
def merged (d : Document) : Document → Document
  | members ms => .members (mergedMembers (match d with | members own => own | _ => []) ms)
  | null => .null
  | truth b => .truth b
  | number cs => .number cs
  | text cs => .text cs
  | list ds => .list ds

/-- Members after the changes that others make in turn. -/
def mergedMembers (own : List (List Char × Document)) :
    List (List Char × Document) → List (List Char × Document)
  | [] => own
  | (key, null) :: ms => mergedMembers (withMember (plainText key) none own) ms
  | (key, d) :: ms =>
    let here :=
      match member? (plainText key) own with
      | some old => withMember (plainText key) (some (merged old d)) own
      | none => own ++ [(key, merged null d)]
    mergedMembers here ms

end

/-! ## Lines -/

mutual

/-- How a document is written with every part on a line of its own. -/
def inLines (indent : List Char) (depth : Nat) : Document → List Char
  | list [] => ['[', ']']
  | list ds =>
    '[' :: '\n' :: itemsInLines indent (depth + 1) ds ++
      '\n' :: (List.replicate depth indent).flatten ++ [']']
  | members [] => [Char.ofNat 123, Char.ofNat 125]
  | members ms =>
    Char.ofNat 123 :: '\n' :: pairsInLines indent (depth + 1) ms ++
      '\n' :: (List.replicate depth indent).flatten ++ [Char.ofNat 125]
  | null => written null
  | truth b => written (truth b)
  | number cs => cs
  | text cs => enquoted cs

def itemsInLines (indent : List Char) (depth : Nat) : List Document → List Char
  | [] => []
  | [d] => (List.replicate depth indent).flatten ++ inLines indent depth d
  | d :: ds =>
    (List.replicate depth indent).flatten ++ inLines indent depth d ++
      ',' :: '\n' :: itemsInLines indent depth ds

def pairsInLines (indent : List Char) (depth : Nat) : List (List Char × Document) → List Char
  | [] => []
  | [(key, d)] =>
    (List.replicate depth indent).flatten ++ enquoted key ++ ':' :: ' ' :: inLines indent depth d
  | (key, d) :: ms =>
    (List.replicate depth indent).flatten ++ enquoted key ++ ':' :: ' ' ::
      (inLines indent depth d ++ ',' :: '\n' :: pairsInLines indent depth ms)

end

/-! ## Functions -/

/-- Makes changes in turn; paths and documents alternate. A path that is nothing is passed over. -/
def amendedInTurn (e : Document → Amendment) (d : Document) : List (Cell × Document) →
    Outcome Document
  | [] => .ok d
  | (p, new) :: rest =>
    match p.words? with
    | none => amendedInTurn e d rest
    | some s => do amendedInTurn e ((← amended (e new) s d).getD d) rest

/-- Arguments by twos. -/
def pairUp {α : Type} : List α → List (α × α)
  | a :: b :: r => (a, b) :: pairUp r
  | _ => []

/-- A function that changes a document where paths lead. The first argument tells how to take the
others. -/
def amending (name : String) (e : Document → Amendment) : Function := fun a =>
  match a.cells with
  | [_] => .ok .null
  | marks :: c :: cs =>
    if cs.length % 2 = 1 then .error (.fault (.evenArguments name))
    else if c = .null then .ok .null
    else do
      let d ← ofCell c
      let flags := ((marks.words?.map String.toList).getD []).tail
      let changes ← (pairUp (cs.zip (flags ++ List.replicate cs.length '0'))).mapM fun (p, v) =>
        (made v.2 v.1).map fun new => (p.1, new)
      return asText (← amendedInTurn e d changes)
  | [] => .error .undetermined

def inserted : Function := amending "insert" .insert

def replaced : Function := amending "replace" .replace

def put : Function := amending "set" .put

/-- Takes parts out in turn. -/
def removedInTurn (d : Document) : List Cell → Outcome (Option Document)
  | [] => .ok (some d)
  | p :: ps =>
    match p.words? with
    | none => .ok none
    | some s => do
      match ← amended .remove s d with
      | some d => removedInTurn d ps
      | none => return none

def removed : Function := fun a =>
  match a.cells with
  | [] => .ok .null
  | .null :: _ => .ok .null
  | c :: ps => do return ((← removedInTurn (← ofCell c) ps).map asText).getD .null

def patched : Function := fun a =>
  match a.cells with
  | [.null, _] => .ok .null
  | [c, p] => do
    let d ← ofCell c
    if p = .null then return .null else return asText (merged d (← ofCell p))
  | _ => .error .undetermined

def pretty : Function := fun a =>
  match a.cells with
  | .null :: _ => .ok .null
  | c :: rest => do
    let d ← ofCell c
    let indent := ((rest.head?.bind Cell.words?).map Pattern.visible).getD (List.replicate 4 ' ')
    return .text (.ofList (inLines indent 0 d))
  | [] => .error .undetermined

end Document

end AlertService.Schema
