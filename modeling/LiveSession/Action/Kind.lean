import LiveSession.Error

/-!
# Kinds of actions

The vocabulary of actions and the stable name of each kind.
-/

namespace LiveSession

inductive ActionKind where
  | request
  | ajax
  | get
  | post
  | pageUnload
  | loadStaticAssets
  | channelConnect
  | emit
  | awaitEmit
  | confirmNoEmit
  | confirmNoMatchingEmit
  | connectAndAwaitEmit
  | connectAndConfirmNoEmit
  deriving DecidableEq, Repr, Inhabited

namespace ActionKind

def all : List ActionKind :=
  [request, ajax, get, post, pageUnload, loadStaticAssets, channelConnect, emit, awaitEmit,
    confirmNoEmit, confirmNoMatchingEmit, connectAndAwaitEmit, connectAndConfirmNoEmit]

def name : ActionKind → String
  | request => "generic-request"
  | ajax => "ajax"
  | get => "get"
  | post => "post"
  | pageUnload => "page-unload"
  | loadStaticAssets => "load-static-assets"
  | channelConnect => "channel-connect"
  | emit => "emit"
  | awaitEmit => "await-emit"
  | confirmNoEmit => "confirm-no-emit"
  | confirmNoMatchingEmit => "confirm-no-matching-emit"
  | connectAndAwaitEmit => "connect-and-await-emit"
  | connectAndConfirmNoEmit => "connect-and-confirm-no-emit"

def ofName? (text : String) : Option ActionKind :=
  all.find? fun k => k.name == text

/-- The kind of a name; names outside the vocabulary are refused. -/
def read (text : String) : Except Error ActionKind :=
  match ofName? text with
  | some k => .ok k
  | none => .error (.unknownActionKind text)

end ActionKind

end LiveSession
