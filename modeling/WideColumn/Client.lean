import WideColumn.Dispatcher.Basic

/-!
# Clients

A client has one method per kind of request, and each method takes requests of its kind only. Behind
that check lies the dispatcher.
-/
namespace WideColumn.Client

/-- The class name of the requests of a kind. -/
def className : RequestKind → String
  | .get => "GetRequest"
  | .put => "PutRequest"
  | .append => "AppendRequest"
  | .delete => "DeleteRequest"
  | .scan => "ScanRequest"

/-- Refuse whatever is not a request of the kind that a method takes. -/
def expect (kind : RequestKind) (submission : Submission) : Except Error Request :=
  let refused : Except Error Request :=
    .error (.request (.wrongRequest (className kind) submission.typeName))
  match submission with
  | .request known => if known.kind = kind then .ok known else refused
  | _ => refused

/-- Submit by the method of a kind. -/
def submit (kind : RequestKind) (submission : Submission) (dispatcher : Dispatcher β) :
    Except Error DeferredId × List (Notice β) × Dispatcher β :=
  match expect kind submission with
  | .ok request => dispatcher.submit (.request request)
  | .error error => (.error error, [], dispatcher)

end WideColumn.Client
