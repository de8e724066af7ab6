import AlertService.Text.Digits
import AlertService.Text.Split

/-!
# Sending through the bot

A message is sent by a request to an address that holds the token of the bot. Where the configured
base makes no address there is no request either.
-/

namespace AlertService.Telegram

/-- Why a message could not be sent. -/
inductive SendError where
  | noAddress
deriving DecidableEq

def SendError.message : SendError → String
  | .noAddress => "sendMessage request failed: builder error"

/-- The text without slashes at its end. -/
def trimSlashes (s : String) : String :=
  String.ofList (s.toList.reverse.dropWhile (· = '/')).reverse

/-- A part of the name of a host. Names in the encoding for other scripts are not taken. -/
def isLabel (cs : List Char) : Bool :=
  !cs.isEmpty && (cs.all fun c => c.isAlphanum || c = '-' || c = '_') &&
    (cs.take 4).map Char.toLower ≠ ['x', 'n', '-', '-']

/-- A number, in base ten or sixteen. -/
def isNumeral (cs : List Char) : Bool :=
  (Text.natural? cs).isSome ||
    (cs.take 2).map Char.toLower = ['0', 'x'] && (cs.drop 2).all fun c => (Text.hexValue? c).isSome

/-- A number below 256 without needless zeros. -/
def isOctet (cs : List Char) : Bool :=
  (Text.natural? cs).any (· < 256) && (cs.length = 1 || cs.head? ≠ some '0')

/-- A host is named by labels, or by four numbers if the last one is a number. -/
def isHost (cs : List Char) : Bool :=
  let labels := Text.splitOn '.' cs
  if labels.getLast?.any isNumeral then labels.length = 4 && labels.all isOctet
  else labels.all isLabel

/-- A host, and perhaps a port after a colon. -/
def isAuthority (cs : List Char) : Bool :=
  match Text.splitOn ':' cs with
  | [host] => isHost host
  | [host, port] => isHost host && (Text.natural? port).any (· < UInt16.size)
  | _ => false

/-- The text starts with a scheme and names a host. -/
def isAddress (s : String) : Bool :=
  ["http://", "https://"].any fun scheme =>
    scheme.toList.isPrefixOf s.toList &&
      isAuthority ((s.toList.drop scheme.length).takeWhile fun c => c ≠ '/' && c ≠ '?' && c ≠ '#')

/-- The address that messages are sent to. -/
def sendAddress (base token : String) : Except SendError String :=
  let address := trimSlashes base ++ "/bot" ++ token ++ "/sendMessage"
  if isAddress address then .ok address else .error .noAddress

end AlertService.Telegram
