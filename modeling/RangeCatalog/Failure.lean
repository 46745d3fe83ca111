import RangeCatalog.Catalog.Build
import RangeCatalog.Program
import RangeCatalog.Settings.Basic
import RangeCatalog.Storage.Basic
import RangeCatalog.Text.Quoted

/-! # Failures

Why a command fails. A failure gives an account of itself: first what the command wanted, then the causes
behind that, each with its own words. A report writes the account in lines.
-/

namespace RangeCatalog

/-- Why the settings in a file cannot be used. -/
inductive SettingsFailure where
  | unreadable (path : Path) (error : StorageError)
  | refused (path : Path) (error : SettingsError)
deriving DecidableEq, Repr

inductive Failure where
  | settings (path : Path) (failure : SettingsFailure)
  /-- The lock of an output is held by another command. -/
  | locked (output lockFile : Path)
  | lockFile (path : Path) (error : StorageError)
  /-- No client for requests can be made. -/
  | client (reason : String)
  | directory (path : Path) (error : StorageError)
  /-- The build for an update fails. -/
  | update (error : CatalogError)
  | write (path : Path) (error : StorageError)
  /-- The build for a check fails. -/
  | check (error : CatalogError)
  | missing (output : Path)
  | unreadable (output : Path) (error : StorageError)
  | malformed (output : Path)
  /-- The stored catalog differs from the rebuilt one. -/
  | stale (output : Path)
deriving DecidableEq, Repr

/-- One link of an account. -/
inductive Cause where
  /-- A sentence of the program. -/
  | said (text : String)
  /-- An error of the storage. -/
  | storage (error : StorageError)
  /-- A text that is not JSON. -/
  | json
  /-- A text that is no document of settings. -/
  | settings
deriving DecidableEq, Repr

def Cause.text : Cause → String
  | said text => text
  | storage error => error.message
  | json => Payload.malformed
  | settings => SettingsError.malformedReason

def SettingsError.account : SettingsError → List Cause
  | malformed => [.settings]
  | error => [.said error.message]

/-- The account of settings that cannot be used. -/
def SettingsFailure.account : SettingsFailure → List Cause
  | unreadable path error => [.said ("Failed to read config file: " ++ quotedText path.text), .storage error]
  | refused path error =>
    .said ("Failed to parse config file: " ++ quotedText path.text) :: error.account

def CatalogError.account (error : CatalogError) : List Cause :=
  .said error.message :: error.cause?.toList.map .said

namespace Failure

/-- What the failure says of itself, and the causes behind it. -/
def account : Failure → List Cause
  | settings path failure =>
    .said ("Failed to load config from " ++ quotedText path.text) :: failure.account
  | locked output file =>
    [.said ("Another " ++ programName ++ " update is already writing " ++ quotedText output.text ++
      ".\nIf you believe this is an error, remove the lock file: " ++ quotedText file.text)]
  | lockFile path error => [.said ("Failed to open lock file: " ++ quotedText path.text), .storage error]
  | client reason => [.said ("Failed to create HTTP client: " ++ reason)]
  | directory path error =>
    [.said ("Failed to create directory " ++ quotedText path.text), .storage error]
  | update error => .said "Catalog build failed; nothing written" :: error.account
  | write path error => [.said ("Failed to write catalog to " ++ quotedText path.text), .storage error]
  | check error => .said "Catalog build failed" :: error.account
  | missing output => [.said ("check failed: " ++ output.text ++ " does not exist")]
  | unreadable output error => [.said ("check failed: cannot read " ++ output.text), .storage error]
  | malformed output => [.said ("check failed: " ++ output.text ++ " is invalid JSON"), .json]
  | stale output =>
    [.said ("check failed: " ++ output.text ++ " is stale; run \x60" ++ programName ++
      " update\x60 to refresh managed ranges")]

/-- A text whose lines after the first are indented. -/
def indentLines (indent : String) (text : String) : String :=
  String.intercalate ("\n" ++ indent) (text.splitOn "\n")

/-- The causes in lines. Several causes are numbered from 0. -/
def causeLines : List String → List String
  | [cause] => ["    " ++ indentLines "    " cause]
  | causes => causes.mapIdx fun index cause =>
      "    " ++ decimal index ++ ": " ++ indentLines "       " cause

def report (failure : Failure) : String :=
  match failure.account.map Cause.text with
  | [] => ""
  | [text] => "Error: " ++ text ++ "\n"
  | text :: causes =>
    "Error: " ++ text ++ "\n\nCaused by:\n" ++ String.intercalate "\n" (causeLines causes) ++ "\n"

end Failure

end RangeCatalog
