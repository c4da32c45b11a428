import DeviceGateway.Plugin
import DeviceGateway.Redis.Address
import DeviceGateway.Settings
import DeviceGateway.Settings.Dotenv
import DeviceGateway.Store.Tables
/-!
Starting a gateway: its settings come first, then the database, then the address of the key-value
store. The first of them that fails is why it does not start.
-/
namespace DeviceGateway

inductive StartError where
  | settings (e : SettingsError)
  | storage
deriving DecidableEq, Repr

def StartError.shown : StartError → String
  | .settings e => e.shown
  | .storage => "StorageError"

/-- What the settings say of the gateway itself; a gateway on its own has no hooks before it. -/
def Settings.context (s : Settings) : Context where
  credentials := ⟨s.rootPassword, s.pluginPassword⟩
  snapshotLifetime := s.snapshotLifetime
  hooks := []

/-- Reads the settings, with a file of variables for those that the environment lacks, and looks
whether the stores are there; `database` finds the one at a URL, if it can be reached. -/
def start (database : String → Option Tables.Database) (env : Environment) (file : String) :
    Except StartError Settings :=
  match Settings.ofEnvironment (Dotenv.load env file) with
  | .error e => .error (.settings e)
  | .ok s =>
    match Tables.connect (database s.databaseUrl) with
    | .error _ => .error .storage
    | .ok _ => if Redis.isAddress s.redisUrl then .ok s else .error .storage

end DeviceGateway
