import Reckoner.Batch.Input
import Reckoner.Log
import Reckoner.Network.Exchange
import Reckoner.Validation.Field

/-!
# The batch client

The client sends the text of a batch to a server and writes down what comes back, piece by piece.
-/

namespace Reckoner

/-- Where a server is. -/
structure Endpoint where
  /-- The address. -/
  host : Address
  /-- The port. -/
  port : Nat
  deriving DecidableEq, Repr

namespace Endpoint

/-- The port of a server that was given none. -/
def defaultPort : Nat := 9000

/-- A port: an integer from 1 to 65535, or what means one. -/
def portReading : Reading Nat := fun value =>
  match Reading.integer value with
  | .error problem => .error problem
  | .ok value =>
    if value < 1 then .error (.belowBound 1)
    else if 65535 < value then .error (.aboveBound 65535)
    else .ok value.toNat

/-- The host and the port among members, with their defaults. -/
def ofMembers (members : List (String × Json)) : Checked Endpoint :=
  (((Checked.defaulted "host" .loopback Address.reading members).both
    (Checked.defaulted "port" defaultPort portReading members))).map fun (host, port) =>
      ⟨host, port⟩

/-- The address and the port, with a colon between them. -/
def text (endpoint : Endpoint) : String := endpoint.host.text ++ ":" ++ toString endpoint.port

end Endpoint

/-- A client of a server. -/
structure Client where
  /-- Where the server is. -/
  server : Endpoint
  deriving DecidableEq, Repr

namespace Client

/-- The client that a value describes. -/
def ofJson (value : Json) : Checked Client := do
  let members ← Checked.members (.notRecord "ExpressionClient") value
  return ⟨← Endpoint.ofMembers members⟩

/-- A client does not change: setting a field is refused. -/
def set (field : String) : Checked Client := .error [⟨[field], .frozen⟩]

/-- The bytes that are written down of pieces, each of which must be a text of its own, and the
refusal of the first that is not. -/
def writeDown : List Bytes → Bytes × Option Text.Utf8.DecodeError
  | [] => ([], none)
  | piece :: rest =>
    match Text.Utf8.decode piece with
    | .error error => ([], some error)
    | .ok chars =>
      let (written, refusal) := writeDown rest
      (Text.Utf8.encode chars ++ written, refusal)

/-- The other end of a connection: what it leaves in the folder and the chunks that it answers,
once it has received all bytes. -/
abbrev Peer := Folder → Bytes → Folder × List Bytes

/-- What an exchange leaves. -/
structure Run where
  /-- What was done with the socket. -/
  calls : List SocketCall
  /-- The files. -/
  folder : Folder
  /-- What the client told. -/
  records : List Log.Record
  /-- What ended the exchange. -/
  raised : Option InputError

/-- An exchange: the text of the input goes out, the answer of the other end is written to the
output. -/
def send (client : Client) (peer : Peer) (folder : Folder) (input output : Path) : Run :=
  match Input.load folder input with
  | .error error => ⟨[], folder, [], some error⟩
  | .ok chars =>
    let content := Text.Utf8.encode chars
    let calls := [.opened client.server.host.version,
      .connected client.server.host.text client.server.port, .sent content, .halfClosed, .closed]
    let connected := Log.info ("🔌 Connected to " ++ client.server.text)
    let (folder, chunks) := peer folder content
    let (written, refusal) := writeDown (Exchange.deliveries chunks)
    match folder.write output written with
    | .error error => ⟨calls, folder, [connected], some (.file error)⟩
    | .ok folder =>
      match refusal with
      | some error => ⟨calls, folder, [connected], some (.undecodable error)⟩
      | none =>
        ⟨calls, folder, [connected, Log.info ("📄 Results written to " ++ output.text)], none⟩

end Client

end Reckoner
