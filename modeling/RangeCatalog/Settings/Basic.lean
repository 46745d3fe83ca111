import RangeCatalog.Storage.Path
import RangeCatalog.Text.Numeral

/-! # Settings

What an operator may choose: where the catalog is kept, and bounds on a fetch. The hosts that may be
contacted and the bounds on growth are not settings.
-/

namespace RangeCatalog

structure FetchSettings where
  timeoutSeconds : Nat := 20
  maxPayloadSize : Nat := 4 * 1024 * 1024
deriving DecidableEq, Repr

/-- What an operator may choose. -/
structure Settings where
  /-- The path of the catalog. -/
  output : Path := ⟨"config/managed_ip_ranges.json"⟩
  fetch : FetchSettings := {}
deriving DecidableEq, Repr

/-- Why settings are not accepted. -/
inductive SettingsError where
  /-- The text is not a document of settings. -/
  | malformed
  | noOutput
  | noTimeout
  | payloadLimit (size : Nat)
deriving DecidableEq, Repr

namespace Settings

/-- The greatest size that may be chosen for payloads. -/
def maxPayloadLimit : Nat := 64 * 1024 * 1024

/-- Checks the values of settings. The first value that is out of bounds counts. -/
def check (settings : Settings) : Except SettingsError Unit :=
  let size := settings.fetch.maxPayloadSize
  if settings.output.text = "" then .error .noOutput
  else if settings.fetch.timeoutSeconds = 0 then .error .noTimeout
  else if size = 0 ∨ maxPayloadLimit < size then .error (.payloadLimit size)
  else .ok ()

/-- Where settings are looked for unless another path is given. -/
def defaultPath : Path := ⟨"/etc/rangewarden/config.yaml"⟩

end Settings

/-- What messages say in place of the reader's own account of a malformed document. -/
def SettingsError.malformedReason : String := "<yaml>"

def SettingsError.message : SettingsError → String
  | malformed => malformedReason
  | noOutput => "output path cannot be empty"
  | noTimeout => "fetch.timeout_secs must be > 0"
  | payloadLimit size =>
    "fetch.max_payload_bytes must be between 1 and " ++ decimal Settings.maxPayloadLimit ++ " (got " ++
      decimal size ++ ")"

end RangeCatalog
