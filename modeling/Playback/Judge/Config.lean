import Playback.Json.Lookup
import Playback.Text.Blank
import Playback.Text.Numeral
import Playback.Text.Percent

/-!
This module contains the settings that say which judge is used and how, and the logic to read them
from the environment.
-/

namespace Playback.Judge

inductive Mode where
  | shared
  | selfHosted
  | rapidapi
  | onHost
deriving DecidableEq, Inhabited

namespace Mode

def name : Mode → String
  | .shared => "public"
  | .selfHosted => "self"
  | .rapidapi => "rapidapi"
  | .onHost => "local"

def ofName? (s : String) : Option Mode :=
  [shared, selfHosted, rapidapi, onHost].find? (·.name == s)

end Mode

/--
The settings of a judge. Times are in milliseconds.
-/
structure Config where
  mode : Mode := .shared
  publicUrl : String := "https://ce.judge0.com"
  selfHostedUrl : String := "http://localhost:2358"
  rapidapiKey : String := ""
  rapidapiHost : String := "judge0-ce.p.rapidapi.com"
  timeout : Int := 10000
  wait : Int := 1000
deriving DecidableEq

namespace Config

/--
A whole number from the environment. What is not set, or set to nothing, has its usual value.
-/
def integerOr (value : Option String) (usual : Int) : Except Text.NumeralFault Int :=
  match value with
  | none => .ok usual
  | some s => if s == "" then .ok usual else Text.readInt s

def textOr (value : Option String) (usual : String) : String :=
  match value with
  | none => usual
  | some s => if s == "" then usual else s

/--
The settings of an environment. A mode that is not known is the usual one.
-/
def ofEnvironment (lookup : String → Option String) : Except Text.NumeralFault Config := do
  let usual : Config := {}
  let mode := (lookup "JUDGE0_MODE").bind fun s => Mode.ofName? (Text.trimmed s).toLower
  let timeout ← integerOr (lookup "JUDGE0_TIMEOUT_MS") usual.timeout
  let wait ← integerOr (lookup "JUDGE0_WAIT_MS") usual.wait
  return {
    mode := mode.getD .shared
    publicUrl := textOr (lookup "JUDGE0_PUBLIC_URL") usual.publicUrl
    selfHostedUrl := textOr (lookup "JUDGE0_SELF_HOSTED_URL") usual.selfHostedUrl
    rapidapiKey := (lookup "JUDGE0_RAPIDAPI_KEY").getD ""
    rapidapiHost := textOr (lookup "JUDGE0_RAPIDAPI_HOST") usual.rapidapiHost
    timeout
    wait }

/--
The address of the service without slashes at its end.
-/
def baseUrl (config : Config) : String :=
  let url := if config.mode = .selfHosted then config.selfHostedUrl else config.publicUrl
  String.ofList (Text.dropEndWhile (· == '/') url.toList)

def headers (config : Config) : List (String × String) :=
  let key :=
    if config.rapidapiKey == "" then []
    else [("X-RapidAPI-Key", config.rapidapiKey), ("X-RapidAPI-Host", config.rapidapiHost)]
  ("Content-Type", "application/json") :: key

inductive ClientFault where
  | address (message : String)
  | header (run : Text.ForeignRun)
deriving DecidableEq

def ClientFault.message : ClientFault → String
  | .address message => message
  | .header run => run.message

/--
The address below which requests are sent to the service. It is the business of the client that sends
them how an address is read, so the reader is given from outside. Headers have to be ASCII.
-/
def clientUrl (readAddress : String → Except String String) (config : Config) :
    Except ClientFault String := do
  let url ← (readAddress config.baseUrl).mapError .address
  match config.headers.findSome? fun header => Text.foreignRun? header.2.toList with
  | some run => throw (.header run)
  | none => return url

def toFields (config : Config) : Fields :=
  [("mode", .str config.mode.name), ("public_url", .str config.publicUrl),
   ("self_hosted_url", .str config.selfHostedUrl), ("rapidapi_key", .str config.rapidapiKey),
   ("rapidapi_host", .str config.rapidapiHost), ("timeout_ms", .int config.timeout),
   ("wait_ms", .int config.wait), ("base_url", .str config.baseUrl),
   ("headers", .obj (Fields.ofTexts config.headers))]

/--
Settings by their names. Those that are not given are the usual ones.
-/
def ofJson (json : Json) : Config :=
  let usual : Config := {}
  { mode := (Mode.ofName? (json.text "mode")).getD usual.mode
    publicUrl := json.text "public_url" usual.publicUrl
    selfHostedUrl := json.text "self_hosted_url" usual.selfHostedUrl
    rapidapiKey := json.text "rapidapi_key" usual.rapidapiKey
    rapidapiHost := json.text "rapidapi_host" usual.rapidapiHost
    timeout := json.integer "timeout_ms" usual.timeout
    wait := json.integer "wait_ms" usual.wait }

def seconds (milliseconds : Int) : Binary64 :=
  .ofRatio (milliseconds < 0) milliseconds.natAbs 1000

end Config

end Playback.Judge
