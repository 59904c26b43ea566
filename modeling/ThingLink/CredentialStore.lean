import ThingLink.Documents.Credentials
import ThingLink.Files

/-!
# The credentials file

Credentials outlive a run in a JSON file.  A file that does not exist means that
the thing has no credentials yet; every other obstacle is an error.
-/

namespace ThingLink

inductive StoreError where
  | read (path : String) (cause : FileError)
  | write (path : String) (cause : FileError)
  | invalid (path : String) (cause : JsonFault)
  deriving DecidableEq, Repr

def StoreError.message : StoreError → String
  | read path cause => "failed to read credentials from '" ++ path ++ "': " ++ cause.message
  | write path cause => "failed to write credentials to '" ++ path ++ "': " ++ cause.message
  | invalid path cause => "invalid credentials in '" ++ path ++ "': " ++ cause.message

namespace CredentialStore

def load (files : Files) (path : String) : Except StoreError (Option Credentials) :=
  match files.read path with
  | .error .notFound => .ok none
  | .error e => .error (.read path e)
  | .ok text =>
      match Credentials.ofDocument text with
      | .error e => .error (.invalid path e)
      | .ok c => .ok (some c)

def save (files : Files) (path : String) (c : Credentials) : Except StoreError Files :=
  match files.write path c.document with
  | .error e => .error (.write path e)
  | .ok files => .ok files

end CredentialStore

end ThingLink
