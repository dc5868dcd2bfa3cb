import Microblog.Text.Blank
import Microblog.Text.Decimal
import Microblog.Text.Lowercase
import Microblog.Throttle

/-!
# Settings

The settings are read from named variables.  A variable that is absent or empty leaves its setting
at the default; one that cannot be read is an error, and of several the first in the order of the
settings counts.  `Settings.check` says whether settings that could be read make sense.
-/

set_option autoImplicit false

namespace Microblog

open Text

/-- All that can be set. -/
structure Settings where
  databasePath : String
  webHost : String
  webPort : Nat
  /-- The origins from which a browser may use the interface. -/
  origins : List String
  throttle : ThrottleSettings
  cacheEnabled : Bool
  /-- How long a page of the feed of everybody is cached, in seconds. -/
  feedLifetime : Nat
  /-- How long the trending hashtags are cached, in seconds. -/
  trendingLifetime : Nat
  /-- The time between two pings of a stream, in seconds. -/
  heartbeat : Nat
  /-- How many notifications wait in a mailbox. -/
  mailboxCapacity : Nat
deriving DecidableEq, Repr

/-- What is wrong with a variable. -/
inductive SettingsError where
  | invalid (name message : String)
  | integer (name : String) (fault : Decimal.Fault)
  | boolean (name value : String)
deriving DecidableEq, Repr

/-- The error in words. -/
def SettingsError.message : SettingsError → String
  | invalid name message => "invalid value for " ++ name ++ ": " ++ message
  | integer name fault => "failed to parse " ++ name ++ " as integer: " ++ fault.message
  | boolean name value => "failed to parse " ++ name ++ " as boolean: " ++ value

/-- Variables, by name. -/
abbrev Environment := List (String × String)

namespace Environment

/-- The value of a variable that is not empty. -/
def get? (env : Environment) (name : String) : Option String :=
  (env.lookup name).filter (· ≠ "")

/-- A text. -/
def text (env : Environment) (name default : String) : String := (env.get? name).getD default

/-- A natural number up to `bound`. -/
def nat (env : Environment) (bound : Nat) (name : String) (default : Nat) :
    Except SettingsError Nat :=
  match env.get? name with
  | none => .ok default
  | some s =>
    match Decimal.parse 0 bound s with
    | .ok n => .ok n.toNat
    | .error fault => .error (.integer name fault)

/-- A truth value, in one of its spellings in small or large letters. -/
def bool (env : Environment) (name : String) (default : Bool) : Except SettingsError Bool :=
  match env.get? name with
  | none => .ok default
  | some s =>
    let word := lowercase s
    if ["true", "1", "yes", "on"].contains word then .ok true
    else if ["false", "0", "no", "off"].contains word then .ok false
    else .error (.boolean name s)

end Environment

namespace Settings

/-- The greatest numbers of 16, 32 and 64 bits. -/
def max16 : Nat := 65535

@[inherit_doc max16]
def max32 : Nat := 4294967295

@[inherit_doc max16]
def max64 : Nat := 18446744073709551615

/-- The entries of a list with commas, without blanks around them and without empty ones. -/
def originsOf (s : String) : List String :=
  (((s.toList.splitOn ',').map trimChars).filter (· ≠ [])).map .ofList

/-- A second in nanoseconds. -/
def second : Nat := 1000000000

/-- Read the settings. -/
def read (env : Environment) : Except SettingsError Settings := do
  let webPort ← env.nat max16 "WEB_PORT" 8080
  let perSecond ← env.nat max32 "RATE_LIMIT_PER_SECOND" 5
  let burst ← env.nat max32 "RATE_LIMIT_BURST" 10
  let idle ← env.nat max64 "RATE_LIMIT_IDLE_SECS" 180
  let sweep ← env.nat max64 "RATE_LIMIT_SWEEP_SECS" 60
  let cacheEnabled ← env.bool "CACHE_ENABLED" true
  let feedLifetime ← env.nat max64 "FEED_CACHE_TTL_SECS" 30
  let trendingLifetime ← env.nat max64 "TRENDING_CACHE_TTL_SECS" 300
  let heartbeat ← env.nat max64 "NOTIFICATION_HEARTBEAT_SECS" 30
  let mailboxCapacity ← env.nat max64 "NOTIFICATION_MAILBOX_CAPACITY" 10
  return {
    databasePath := env.text "DATABASE_PATH" "./data/chirp.sqlite"
    webHost := env.text "WEB_HOST" "0.0.0.0"
    webPort
    origins := originsOf (env.text "FRONTEND_URL" "http://localhost:3000")
    throttle := ⟨perSecond, burst, idle * second, sweep * second⟩
    cacheEnabled
    feedLifetime
    trendingLifetime
    heartbeat
    mailboxCapacity }

/-- The first of the settings that has to be more than nothing and is not. -/
def check (s : Settings) : Except SettingsError Unit := do
  let positive (name : String) (n : Nat) : Except SettingsError Unit :=
    if n = 0 then .error (.invalid name "must be at least 1") else .ok ()
  positive "RATE_LIMIT_PER_SECOND" s.throttle.perSecond
  positive "RATE_LIMIT_BURST" s.throttle.burst
  positive "RATE_LIMIT_SWEEP_SECS" s.throttle.sweepInterval
  positive "NOTIFICATION_HEARTBEAT_SECS" s.heartbeat
  positive "NOTIFICATION_MAILBOX_CAPACITY" s.mailboxCapacity
  if s.origins.isEmpty then .error (.invalid "FRONTEND_URL" "cannot be empty") else .ok ()

end Settings

end Microblog
