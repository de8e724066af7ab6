import AlertService.Text.Blank

/-!
# Bot commands

A chat opts in to notifications with `/send_notifications` and out with `/stop_notifications`. A
command is the first word of a message, up to an `@` that names the bot it is meant for.
-/

namespace AlertService.Telegram

inductive Command where
  | start
  | help
  | sendNotifications
  | stopNotifications
deriving DecidableEq, Repr

namespace Command

def word : Command → String
  | .start => "/start"
  | .help => "/help"
  | .sendNotifications => "/send_notifications"
  | .stopNotifications => "/stop_notifications"

def all : List Command := [.start, .help, .sendNotifications, .stopNotifications]

/-- The command whose word this is. -/
def ofWord? (w : List Char) : Option Command := all.find? fun c => c.word.toList = w

/-- The command that a message gives. -/
def parse (text : String) : Option Command :=
  ofWord? ((Text.firstWord text.toList).takeWhile fun c => c ≠ '@')

end Command

end AlertService.Telegram
