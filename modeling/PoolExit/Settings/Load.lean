import PoolExit.Settings.Decode
import PoolExit.Settings.Error
import PoolExit.Settings.Wallet
import PoolExit.Url.Basic

/-!
# Loading settings

Settings are taken from the first file there is; without any, they are the defaults.  Settings from a
file are looked over, and the first fault in the order of `Settings.fault?` is reported.
-/

namespace PoolExit

namespace Settings

/-- What is wrong with the address of an endpoint, if anything; a blank one is a missing one. -/
def urlFault? (raw : String) : Option String :=
  let url := Text.trim raw
  if url.isEmpty then none
  else match Url.scheme url with
    | .error fault => some s!"{url} 不是合法 URL: {fault.message}"
    | .ok scheme =>
      if scheme = "http" ∨ scheme = "https" then none else some s!"{url} 的协议 {scheme} 不受支持"

/-- The addresses of a venue's endpoints. -/
def venueUrls (v : VenueSettings) : List String :=
  v.discoverUrl :: v.buildUrl :: v.healthUrl.toList

/-- All addresses that are used, with the names of their settings. -/
def urls (s : Settings) : List (String × String) :=
  s.global.rpcUrls.map (fun url => ("global.rpc_urls", url)) ++
    s.enabledVenues.flatMap fun v =>
      (venueUrls (s.venue v)).map fun url => ("protocols." ++ v.name, url)

/-- The first fault of the settings of runs, with the name of its setting. -/
def exitFault? (e : ExitSettings) : Option (String × String) :=
  if e.variantCount = 0 then some ("exit.variant_count", "至少需要 1 档优先费")
  else if e.escalationFactorBps < 10000 then
    some ("exit.escalation_factor_bps", s!"{e.escalationFactorBps} 小于 10000，优先费不会递增")
  else if e.withdrawBps = 0 ∨ wholeBps < e.withdrawBps then
    some ("exit.withdraw_bps", (OptionsFault.fraction e.withdrawBps).boundText)
  else if wholeBps < e.slippageBps then
    some ("exit.slippage_bps", (OptionsFault.slippage e.slippageBps).boundText)
  else none

/-- The first fault of the settings, with the name of its setting. -/
def fault? (s : Settings) : Option (String × String) :=
  (exitFault? s.exit).or
    (s.urls.findSome? fun (field, url) => (urlFault? url).map fun reason => (field, reason))

/-- Refuses settings with a fault. -/
def validate (s : Settings) : Except SettingsError Unit :=
  match s.fault? with
  | some (field, reason) => .error (.invalid field reason)
  | none => .ok ()

/-- The files in which settings are looked for. -/
def standardPaths : List String := ["lp-exit.yaml", "config/lp-exit.yaml"]

/-- Takes settings from the contents of a file. -/
def ofFile (path text : String) : Except SettingsError Settings :=
  match ofText text with
  | .error fault => .error (.unparsable path fault.message)
  | .ok s => match s.validate with
    | .error e => .error e
    | .ok () => .ok s

/-- Takes settings from the first file there is. -/
def loadFirst {m : Type → Type} [Monad m] (look : String → m FileContents) :
    List String → m (Except SettingsError Settings)
  | [] => return .ok {}
  | path :: rest => do
    match ← look path with
    | .absent => loadFirst look rest
    | .unreadable reason => return .error (.unreadable path reason)
    | .text text => return ofFile path text

/-- Takes settings from a given file, or else from the first standard one. -/
def load {m : Type → Type} [Monad m] (look : String → m FileContents) (path : Option String) :
    m (Except SettingsError Settings) :=
  loadFirst look (match path with
    | some path => [path]
    | none => standardPaths)

end Settings

end PoolExit
