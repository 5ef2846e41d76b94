import DroidRoots.Role

/-! What the framework itself provides: the types from which components derive,
in order of precedence, and for each role the callbacks that the framework calls
during a component's life. -/

namespace DroidRoots.Framework

def rootType : Text := "java.lang.Object"

def applicationType : Text := "android.app.Application"

/-- The base types, the first that a class derives from deciding its role. -/
def baseTypes : List (Role × Text) :=
  [
    (.application, applicationType),
    (.activity, "android.app.Activity"),
    (.service, "android.app.Service"),
    (.fragment, "android.app.Fragment"),
    (.fragment, "android.support.v4.app.Fragment"),
    (.fragment, "androidx.fragment.app.Fragment"),
    (.broadcastReceiver, "android.content.BroadcastReceiver"),
    (.contentProvider, "android.content.ContentProvider"),
    (.messagingService, "com.google.android.gcm.GCMBaseIntentService"),
    (.messageListener, "com.google.android.gms.gcm.GcmListenerService"),
    (.serviceConnection, "android.content.ServiceConnection"),
    (.activity, "com.google.android.maps.MapActivity")
  ]

def callbacks : Role → List Text
  | .activity =>
    [
      "void onCreate(android.os.Bundle)",
      "void onStart()",
      "void onRestoreInstanceState(android.os.Bundle)",
      "void onPostCreate(android.os.Bundle)",
      "void onResume()",
      "void onPostResume()",
      "java.lang.CharSequence onCreateDescription()",
      "void onSaveInstanceState(android.os.Bundle)",
      "void onPause()",
      "void onStop()",
      "void onRestart()",
      "void onDestroy()",
      "void onAttachFragment(android.app.Fragment)"
    ]
  | .service =>
    [
      "void onCreate()",
      "void onStart(android.content.Intent,int)",
      "int onStartCommand(android.content.Intent,int,int)",
      "android.os.IBinder onBind(android.content.Intent)",
      "void onRebind(android.content.Intent)",
      "boolean onUnbind(android.content.Intent)",
      "void onDestroy()"
    ]
  | .fragment =>
    [
      "void onCreate(android.os.Bundle)",
      "void onAttach(android.app.Activity)",
      "android.view.View onCreateView(android.view.LayoutInflater,android.view.ViewGroup," ++
        "android.os.Bundle)",
      "void onViewCreated(android.view.View,android.os.Bundle)",
      "void onStart()",
      "void onActivityCreated(android.os.Bundle)",
      "void onViewStateRestored(android.app.Activity)",
      "void onResume()",
      "void onPause()",
      "void onStop()",
      "void onDestroyView()",
      "void onDestroy()",
      "void onDetach()",
      "void onSaveInstanceState(android.os.Bundle)"
    ]
  | .broadcastReceiver =>
    [
      "void onReceive(android.content.Context,android.content.Intent)"
    ]
  | .contentProvider =>
    [
      "boolean onCreate()",
      "android.net.Uri insert(android.net.Uri,android.content.ContentValues)",
      "android.database.Cursor query(android.net.Uri,java.lang.String[],java.lang.String," ++
        "java.lang.String[],java.lang.String)",
      "int update(android.net.Uri,android.content.ContentValues,java.lang.String," ++
        "java.lang.String[])",
      "int delete(android.net.Uri,java.lang.String,java.lang.String[])",
      "java.lang.String getType(android.net.Uri)"
    ]
  | .messagingService =>
    [
      "void onDeletedMessages(android.content.Context,int)",
      "void onError(android.content.Context,java.lang.String)",
      "void onMessage(android.content.Context,android.content.Intent)",
      "boolean onRecoverableError(android.content.Context,java.lang.String)",
      "void onRegistered(android.content.Context,java.lang.String)",
      "void onUnregistered(android.content.Context,java.lang.String)"
    ]
  | .messageListener =>
    [
      "void onDeletedMessages()",
      "void onMessageReceived(java.lang.String,android.os.Bundle)",
      "void onMessageSent(java.lang.String)",
      "void onSendError(java.lang.String,java.lang.String)"
    ]
  | .serviceConnection =>
    [
      "void onServiceConnected(android.content.ComponentName,android.os.IBinder)",
      "void onServiceDisconnected(android.content.ComponentName)"
    ]
  | .application | .plain => []

end DroidRoots.Framework
