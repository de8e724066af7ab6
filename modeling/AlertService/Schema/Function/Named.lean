import AlertService.Schema.Function.Amendment
import AlertService.Schema.Function.Number
import AlertService.Schema.Function.Template
import AlertService.Schema.Function.Timestamp

/-!
# Functions by their names

The functions that expressions can call.
-/

namespace AlertService.Schema

namespace Function

/-- The first argument as it is. -/
def itself : Function := fun a =>
  match a.cells with
  | c :: _ => .ok c
  | [] => .error .undetermined

def textFunctions : List (String × Function) :=
  [("length", length), ("octet_length", octetLength), ("substr", substring),
   ("substring", substring), ("instr", place), ("upper", upper), ("lower", lower),
   ("trim", trim true true), ("ltrim", trim true false), ("rtrim", trim false true),
   ("replace", replace), ("concat", concat), ("concat_ws", concatWith), ("char", ofCharacters),
   ("unicode", codePoint), ("hex", hex), ("unhex", unhex), ("quote", quote), ("soundex", sound),
   ("like", Pattern.like), ("glob", Pattern.glob), ("printf", Template.format),
   ("format", Template.format)]

def numberFunctions : List (String × Function) :=
  [("typeof", kind), ("abs", absolute), ("sign", sign), ("round", round), ("min", least),
   ("max", greatest), ("nullif", unlessEqual), ("random", random), ("randomblob", randomBytes),
   ("zeroblob", zeroBytes), ("likely", itself), ("unlikely", itself), ("likelihood", itself),
   ("last_insert_rowid", newestNumber), ("changes", lastCount), ("total_changes", totalCount),
   ("sqlite_version", engineVersion)]

def timeFunctions : List (String × Function) :=
  [("date", Timestamp.date), ("time", Timestamp.time), ("datetime", Timestamp.dateAndTime),
   ("julianday", Timestamp.dayCount), ("unixepoch", Timestamp.secondCount),
   ("timediff", Timestamp.difference),
   ("strftime", Timestamp.format), ("current_date", Timestamp.currentDate),
   ("current_time", Timestamp.currentTime), ("current_timestamp", Timestamp.currentTimestamp)]

/-- The names of the operators between a document and a path count here too. -/
def documentFunctions : List (String × Function) :=
  [("json_valid", Document.isValid), ("json", Document.minified), ("json_type", Document.kindOf),
   ("json_array_length", Document.length), ("json_extract", Document.extract),
   ("json_quote", Document.quoted), ("json_array", Document.listed), ("json_object", Document.joined),
   ("json_insert", Document.inserted), ("json_replace", Document.replaced), ("json_set", Document.put),
   ("json_remove", Document.removed), ("json_patch", Document.patched),
   ("json_pretty", Document.pretty), ("->", Document.partOf), ("->>", Document.contentOf)]

/-- The function of that name. -/
def named? (name : String) : Option Function :=
  ((textFunctions ++ numberFunctions ++ timeFunctions ++ documentFunctions).find? fun f =>
    f.1 = name.toLower).map (·.2)

end Function

end AlertService.Schema
