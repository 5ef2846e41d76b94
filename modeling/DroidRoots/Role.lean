import DroidRoots.Text.CodePoint

/-! The parts that a class can play in an application, each with the title it
has in reports and the key it has in constants. A plain class plays no part. -/

namespace DroidRoots

inductive Role
  | application
  | activity
  | service
  | fragment
  | broadcastReceiver
  | contentProvider
  | messagingService
  | messageListener
  | serviceConnection
  | plain
  deriving DecidableEq, Repr

namespace Role

def all : List Role :=
  [application, activity, service, fragment, broadcastReceiver, contentProvider,
    messagingService, messageListener, serviceConnection, plain]

theorem mem_all (role : Role) : role ∈ all := by cases role <;> decide

def title : Role → Text
  | application => "Application"
  | activity => "Activity"
  | service => "Service"
  | fragment => "Fragment"
  | broadcastReceiver => "BroadcastReceiver"
  | contentProvider => "ContentProvider"
  | messagingService => "GCMBaseIntentService"
  | messageListener => "GCMListenerService"
  | serviceConnection => "ServiceConnection"
  | plain => "Plain"

def key : Role → Text
  | application => "APPLICATION"
  | activity => "ACTIVITY"
  | service => "SERVICE"
  | fragment => "FRAGMENT"
  | broadcastReceiver => "BROADCAST_RECEIVER"
  | contentProvider => "CONTENT_PROVIDER"
  | messagingService => "GCM_BASE_INTENT_SERVICE"
  | messageListener => "GCM_LISTENER_SERVICE"
  | serviceConnection => "SERVICE_CONNECTION"
  | plain => "PLAIN"

def ofName? (name : Text) : Option Role :=
  all.find? fun role => name = role.title || name = role.key

theorem ofName?_title (role : Role) : ofName? role.title = some role := by
  cases role <;> decide

theorem ofName?_key (role : Role) : ofName? role.key = some role := by
  cases role <;> decide

/-- The framework drives the classes of a role through a table of callbacks,
except for applications and plain classes. -/
def hasTable : Role → Bool
  | application | plain => false
  | _ => true

end Role

end DroidRoots
