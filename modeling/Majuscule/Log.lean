import Majuscule.Lifecycle
import Majuscule.Protocol.Range
import Majuscule.Settings

/-!
# The log

What the server notes while it works. An event says what happened; its level and its wording are
read off it, so that a statement about the log is a statement about events.
-/

namespace Majuscule

/-- How serious an event is. -/
inductive LogLevel where
  | info
  | debug
  | warn
  deriving DecidableEq, Repr

def LogLevel.name : LogLevel → String
  | info => "INFO"
  | debug => "DEBUG"
  | warn => "WARN"

/-- What the server notes. -/
inductive LogEvent where
  | transition (source target : Session)
  | transitionRefused (source target : Session)
  | sessionEnded (previous : Session)
  | ready
  | stopping
  | settingsUpdated (settings : Settings)
  | settingsIgnored (cause : DecodeError)
  | dropped (notification : String) (cause : Refusal)
  | opened (uri : Url) (bytes : Nat)
  | changed (uri : Url) (fragments : Nat)
  | saved (uri : Url)
  | closed (uri : Url)
  | notOpen (uri : Url)
  | truncated (found limit : Nat)
  | published (count : Nat) (uri : Url)
  | watchedFiles (count : Nat)
  | completionAsked (uri : Url) (position : Position)
  | resolveAsked (label : String)
  | unknownCompletion (label : String)
  | codeActionAsked (uri : Url) (range : Range) (diagnostics : Nat)
  | commandAsked (command : String)
  | unknownCommand (command : String)
  | editApplied (command : String)
  | editDeclined (command reason : String)
  | editFailed (command : String) (cause : RpcError)
  deriving Repr

namespace LogEvent

/-- The level of an event. -/
def level : LogEvent → LogLevel
  | transition _ _ => .info
  | transitionRefused _ _ => .warn
  | sessionEnded _ => .info
  | ready => .info
  | stopping => .info
  | settingsUpdated _ => .info
  | settingsIgnored _ => .warn
  | dropped _ _ => .warn
  | editDeclined _ _ => .warn
  | editFailed _ _ => .warn
  | _ => .debug

/-- The wording of an event. -/
def message : LogEvent → String
  | transition source target => "Session " ++ source.name ++ " -> " ++ target.name
  | transitionRefused source target =>
    "Rejected lifecycle transition " ++ source.name ++ " -> " ++ target.name
  | sessionEnded previous => "Session exit (was " ++ previous.name ++ ")"
  | ready => "capslock-lsp server initialized"
  | stopping => "capslock-lsp server shutting down"
  | settingsUpdated settings => "Settings updated: " ++ settings.logText
  | settingsIgnored cause => "Ignoring invalid settings: " ++ cause.message
  | dropped notification cause => "Dropping " ++ notification ++ ": " ++ cause.message
  | opened uri bytes => "did_open: " ++ uri.text ++ " (" ++ toString bytes ++ " bytes)"
  | changed uri fragments =>
    "did_change: " ++ uri.text ++ " (" ++ toString fragments ++ " fragments)"
  | saved uri => "did_save: " ++ uri.text
  | closed uri => "did_close: " ++ uri.text
  | notOpen uri => "validate: " ++ uri.text ++ " is not open"
  | truncated found limit => "Truncating " ++ toString found ++ " diagnostics to " ++ toString limit
  | published count uri => "Publishing " ++ toString count ++ " diagnostics for " ++ uri.text
  | watchedFiles count => "did_change_watched_files: " ++ toString count ++ " changes"
  | completionAsked uri position => "completion: " ++ uri.text ++ " at " ++ position.logText
  | resolveAsked label => "completion_resolve: " ++ label
  | unknownCompletion label => "resolve: unrecognized completion data on '" ++ label ++ "'"
  | codeActionAsked uri range diagnostics =>
    "code_action: " ++ uri.text ++ " at " ++ range.logText ++ " (" ++ toString diagnostics ++
      " diagnostics in context)"
  | commandAsked command => "execute_command: " ++ command
  | unknownCommand command => "Ignoring unknown command: " ++ command
  | editApplied command => command ++ " applied"
  | editDeclined command reason => "Client declined " ++ command ++ ": " ++ reason
  | editFailed command cause => "applyEdit for " ++ command ++ " failed: " ++ cause.logText

end LogEvent
end Majuscule
