import Pasteboard.Net.Address
import Pasteboard.Net.Cidr
/-!
Settings of the service: read from named variables, then changed by overrides.

A variable that is blank counts as absent. The first variable with an unusable value is reported.
Each limit is clamped between one and its ceiling, and a limit that was asked to exceed its ceiling
leaves a notice; an override of a limit makes the earlier notice moot.
-/

namespace Pasteboard

open Pasteboard.Text

/-! ### Limits -/

/-- What is limited. -/
inductive Limit
  | slots
  | fileBytes
  | textBytes
  deriving DecidableEq, Repr

namespace Limit

/-- The name of a limit. -/
def name : Limit → String
  | .slots => "limit"
  | .fileBytes => "max_file_bytes"
  | .textBytes => "max_text_bytes"

/-- The variable that sets a limit. -/
def variableName : Limit → String
  | .slots => "KARING_LIMIT"
  | .fileBytes => "KARING_MAX_FILE_BYTES"
  | .textBytes => "KARING_MAX_TEXT_BYTES"

/-- The numbers that can be asked for. -/
def range : Limit → Numeral.Range
  | .slots => Numeral.nat32
  | .fileBytes => Numeral.nat64
  | .textBytes => Numeral.nat64

/-- The greatest value of a limit, which is also what it is where nothing else is asked for. -/
def ceiling : Limit → Nat
  | .slots => 100
  | .fileBytes => 20971520
  | .textBytes => 10485760

/-- The limits in the order in which they are clamped. -/
def all : List Limit := [.slots, .fileBytes, .textBytes]

/-- The value between one and the ceiling that is nearest to the one asked for. -/
def clamp (l : Limit) (requested : Nat) : Nat :=
  max 1 (min requested l.ceiling)

end Limit

/-- A limit was asked to exceed its ceiling. -/
structure ClampNotice where
  limit : Limit
  requested : Nat
  deriving DecidableEq, Repr

/-- The words of a notice. -/
def ClampNotice.message (n : ClampNotice) : String :=
  n.limit.name ++ " " ++ toString n.requested ++ " exceeds " ++ toString n.limit.ceiling ++
    "; clamping"

/-- A number for each limit, with the notices of the clamps. -/
structure Limits where
  slots : Nat
  fileBytes : Nat
  textBytes : Nat
  notices : List ClampNotice := []
  deriving DecidableEq, Repr

namespace Limits

/-- The number for a limit. -/
def value (x : Limits) : Limit → Nat
  | .slots => x.slots
  | .fileBytes => x.fileBytes
  | .textBytes => x.textBytes

/-- Puts another number for a limit. -/
def put (x : Limits) (l : Limit) (n : Nat) : Limits :=
  match l with
  | .slots => { x with slots := n }
  | .fileBytes => { x with fileBytes := n }
  | .textBytes => { x with textBytes := n }

/-- Drops the notice of a limit. -/
def forget (x : Limits) (l : Limit) : Limits :=
  { x with notices := x.notices.filter (·.limit != l) }

/-- Clamps a limit; a number above the ceiling leaves the latest notice. -/
def clampOne (x : Limits) (l : Limit) : Limits :=
  let requested := x.value l
  let x :=
    if l.ceiling < requested then
      { x.forget l with notices := (x.forget l).notices ++ [⟨l, requested⟩] }
    else x
  x.put l (l.clamp requested)

/-- Clamps every limit. -/
def clamped (x : Limits) : Limits :=
  Limit.all.foldl clampOne x

/-- Asks for another number, if one is given; the notice of the limit is moot then. -/
def ask (x : Limits) (l : Limit) : Option Nat → Limits
  | some n => (x.put l n).forget l
  | none => x

end Limits

/-! ### Settings -/

/-- The settings of the service. -/
structure Settings where
  bind : Net.Endpoint
  logFilter : String
  logJson : Bool
  /-- Where the database is, if not at the default place. -/
  dataPath : Option String
  limits : Limits
  noAuth : Bool
  trustProxy : Bool
  allowLocalhost : Bool
  trustedProxies : List String
  basePath : String
  fullText : Bool
  fallback : Bool
  deriving Repr

/-- Why settings cannot be read. -/
inductive SettingsFault
  | bindAddress (value : String)
  | number (variableName value : String)
  | trustedProxy (entry : String) (fault : Net.CidrFault)
  deriving DecidableEq, Repr

/-- The words for a fault. -/
def SettingsFault.message : SettingsFault → String
  | .bindAddress value =>
    "invalid KARING_BIND_ADDR value '" ++ value ++ "': invalid socket address syntax"
  | .number variableName value =>
    "invalid " ++ variableName ++ " value '" ++ value ++ "': expected a non-negative integer"
  | .trustedProxy entry fault =>
    "invalid KARING_TRUSTED_PROXIES entry '" ++ entry ++ "': " ++ fault.message

namespace Settings

/-- Where requests are answered unless something else is asked for. -/
def defaultBind : String := "127.0.0.1:8080"

/-- The default place of the database. -/
def defaultDataPath : String := "karing.db"

/-- Drops the given character at the end of a list. -/
def dropTrailing (c : Char) (cs : List Char) : List Char :=
  (cs.reverse.dropWhile (· == c)).reverse

/-- A base path: trimmed, with a slash in front and none behind; `/` alone is the root. -/
def normalBasePath (s : String) : String :=
  match dropTrailing '/' (trimBlanks s.toList) with
  | [] => "/"
  | '/' :: cs => String.ofList ('/' :: cs)
  | cs => String.ofList ('/' :: cs)

/-- The names of all variables. -/
def variableNames : List String :=
  ["KARING_BIND_ADDR", "KARING_LOG_FILTER", "KARING_LOG_JSON", "KARING_DATA", "KARING_LIMIT",
    "KARING_MAX_FILE_BYTES", "KARING_MAX_TEXT_BYTES", "KARING_NO_AUTH", "KARING_TRUSTED_PROXY",
    "KARING_ALLOW_LOCALHOST", "KARING_TRUSTED_PROXIES", "KARING_BASE_PATH", "KARING_FTS",
    "KARING_SEARCH_FALLBACK"]

/-- The value of a variable, unless it is blank. -/
def given (lookup : String → Option String) (name : String) : Option String :=
  (lookup name).filter fun value => !allBlank value

/-- Whether a variable is set to a word that switches on; `other` if it is not set. -/
def switched (lookup : String → Option String) (name : String) (other : Bool) : Bool :=
  ((given lookup name).map isTruthy).getD other

/-- The number that a limit is set to, the ceiling if it is not set. -/
def limitFrom (lookup : String → Option String) (l : Limit) : Except SettingsFault Nat :=
  match given lookup l.variableName with
  | none => .ok l.ceiling
  | some raw =>
    match Numeral.read? l.range (trim raw) with
    | some n => .ok n.toNat
    | none => .error (.number l.variableName raw)

/-- The address to bind to. -/
def bindFrom (lookup : String → Option String) : Except SettingsFault Net.Endpoint :=
  let raw := (given lookup "KARING_BIND_ADDR").getD defaultBind
  match Net.Endpoint.read? (trim raw) with
  | some endpoint => .ok endpoint
  | none => .error (.bindAddress raw)

/-- The blocks of the trusted proxies, in their normal text. -/
def proxiesFrom (lookup : String → Option String) : Except SettingsFault (List String) :=
  (((given lookup "KARING_TRUSTED_PROXIES").map commaParts).getD []).mapM fun entry =>
    (Net.normalizeCidr entry).mapError (SettingsFault.trustedProxy entry)

/-- Reads all variables. -/
def read (lookup : String → Option String) : Except SettingsFault Settings := do
  let bind ← bindFrom lookup
  let slots ← limitFrom lookup .slots
  let fileBytes ← limitFrom lookup .fileBytes
  let textBytes ← limitFrom lookup .textBytes
  let trustedProxies ← proxiesFrom lookup
  return {
    bind
    logFilter := (given lookup "KARING_LOG_FILTER").getD "info"
    logJson := switched lookup "KARING_LOG_JSON" false
    dataPath := (given lookup "KARING_DATA").map trim
    limits := (Limits.mk slots fileBytes textBytes []).clamped
    noAuth := switched lookup "KARING_NO_AUTH" false
    trustProxy := switched lookup "KARING_TRUSTED_PROXY" false
    allowLocalhost := switched lookup "KARING_ALLOW_LOCALHOST" false
    trustedProxies
    basePath := ((given lookup "KARING_BASE_PATH").map normalBasePath).getD "/"
    fullText := switched lookup "KARING_FTS" true
    fallback := switched lookup "KARING_SEARCH_FALLBACK" true }

/-- The bytes that the body of a request may have: room for the largest payload and its wrapping. -/
def bodyLimit (s : Settings) : Nat :=
  max s.limits.fileBytes s.limits.textBytes + 1048576

end Settings

/-! ### Overrides -/

/-- What goes before the variables. A switch can only be switched on. -/
structure Overrides where
  dataPath : Option String := none
  port : Option Nat := none
  slots : Option Nat := none
  fileBytes : Option Nat := none
  textBytes : Option Nat := none
  noAuth : Bool := false
  trustProxy : Bool := false
  allowLocalhost : Bool := false
  basePath : Option String := none
  deriving DecidableEq, Repr

/-- The settings with overrides. -/
def Settings.override (s : Settings) (o : Overrides) : Settings :=
  { s with
    dataPath := o.dataPath.or s.dataPath
    bind := match o.port with
      | some port => { s.bind with port }
      | none => s.bind
    limits :=
      (((s.limits.ask .slots o.slots).ask .fileBytes o.fileBytes).ask .textBytes o.textBytes).clamped
    noAuth := s.noAuth || o.noAuth
    trustProxy := s.trustProxy || o.trustProxy
    allowLocalhost := s.allowLocalhost || o.allowLocalhost
    basePath := match o.basePath with
      | some path => normalBasePath path
      | none => s.basePath }

end Pasteboard
