import Majuscule.Decode.Record

/-!
# Settings

The server has one setting, the largest number of problems that it reports for a document. Clients
send settings as a JSON value, either the settings themselves or an object that holds them under the
name of the section; null says nothing at all.
-/

namespace Majuscule

open Decode Record

/-- The settings of the server. -/
structure Settings where
  maxNumberOfProblems : Nat := 1000
  deriving DecidableEq, Repr

namespace Settings

/-- The name under which clients keep the settings of this server. -/
def sectionName : String := "capslock"

/-- The settings among those that a client sends. -/
def selectSection (v : Json) : Json :=
  (v.get? sectionName).getD v

def decode : Decoder Settings :=
  (Settings.mk <$> defaulted "maxNumberOfProblems" ({} : Settings).maxNumberOfProblems size).decode
    "ServerConfig"

/-- What a client says about the settings. -/
inductive Update where
  | unchanged
  | accepted (settings : Settings)
  | refused (cause : DecodeError)

/-- Read the settings from what a client sends. -/
def read : Json → Update
  | .null => .unchanged
  | v =>
    match decode (selectSection v) with
    | .ok settings => .accepted settings
    | .error e => .refused e

/-- Settings as the log shows them. -/
def logText (s : Settings) : String :=
  "ServerConfig \x7b max_number_of_problems: " ++ toString s.maxNumberOfProblems ++ " \x7d"

def encode (s : Settings) : Json :=
  .obj [("maxNumberOfProblems", .nat s.maxNumberOfProblems)]

end Settings
end Majuscule
